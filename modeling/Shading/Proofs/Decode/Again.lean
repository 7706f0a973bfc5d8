import Shading.Proofs.Decode.Arrivals
import Shading.Proofs.Decode.Shifted

/-!
Blobs that are decoded one after the other below one table. A program that was decoded leaves a
trace there: the symbols which its elements defined on the spot. A later blob comes out as if it
were the first one, unless it looks up a type by a name that is bound only since then.
-/

namespace Shading

variable {context : Context} {store : Store} {builtin : TableId} {bytes : Array UInt8}

theorem Program.outcome_of_ran {decoder after : Decoder} {result : Except Fault Program}
    (started : Decoder.start store builtin bytes = .ok (.ok decoder))
    (ran : Decode.program context decoder = (result, after)) :
    outcome context store builtin bytes =
      result.map fun program => .ok (program.listing after.store) := by
  rw [outcome, ofBlob, started]
  dsimp only
  rw [ran]
  cases result <;> rfl

/-! ## One blob over two stores -/

namespace Gap

variable {gap : Gap} {store' : Store} {builtin' : TableId}

theorem sessions_of_stores (stores : gap.Stores (LooksUp bytes) store store')
    (moved : gap.table builtin = builtin') {reader : Reader} (sameBytes : reader.bytes = bytes) :
    gap.Sessions bytes { reader, store, active := builtin }
      { reader, store := store', active := builtin' } where
  reader_eq := rfl
  bytes_eq := sameBytes
  active_eq := moved.symm
  stores := stores
  registered place := ⟨rfl, fun symbol found => by simp at found⟩

/-- The whole program is decoded in parallel. -/
theorem program_answers {decoder decoder' : Decoder}
    (sessions : gap.Sessions bytes decoder decoder') (context : Context) :
    (gap.parallel context bytes).Answers decoder.store.nextId (gap.parallel context bytes).Programs
      (Decode.program context decoder) (Decode.program context decoder') := by
  have follows : (gap.parallel context bytes).Follows 0 (Decode.program context)
      (Decode.program context) (gap.parallel context bytes).Programs := Decode.program_follows
  exact follows decoder decoder' (Nat.zero_le _) sessions

/-- Programs that are alike are listed alike, each below its own store. -/
theorem listing_eq {decoder decoder' : Decoder} {program program' : Program} {bound : Nat}
    (sessions : gap.Sessions bytes decoder decoder')
    (programs : (gap.parallel context bytes).Programs bound program program') :
    program'.listing decoder'.store = program.listing decoder.store := by
  apply Program.listing_eq programs.alike
  intro id present id' present'
  have new : gap.tables ≤ id := programs.opened id present
  have tables : program.table?.map gap.table = program'.table?.map fun table => table :=
    (Program.mk.inj programs.alike).1
  rw [Option.mem_def.mp present, Option.mem_def.mp present'] at tables
  have same : gap.table id = id' := Option.some.inj tables
  rw [← same]
  exact sessions.stores.owned_alike id new

theorem outcome_eq (stores : gap.Stores (LooksUp bytes) store store')
    (moved : gap.table builtin = builtin')
    (sameKind : store'.isBuiltin builtin' = store.isBuiltin builtin) (context : Context) :
    Program.outcome context store' builtin' bytes =
      Program.outcome context store builtin bytes := by
  cases kind : store.isBuiltin builtin with
  | false =>
    rw [kind] at sameKind
    rw [Program.outcome, Program.outcome, Program.ofBlob, Program.ofBlob, Decoder.start,
      Decoder.start, sameKind, kind]
    rfl
  | true =>
    rw [kind] at sameKind
    cases read : Reader.start bytes with
    | error header =>
      rw [Program.outcome, Program.outcome, Program.ofBlob, Program.ofBlob, Decoder.start,
        Decoder.start, sameKind, kind, read]
      rfl
    | ok reader =>
      have started : Decoder.start store builtin bytes =
          .ok (.ok { reader, store, active := builtin }) := by
        rw [Decoder.start, kind, read]
        rfl
      have started' : Decoder.start store' builtin' bytes =
          .ok (.ok { reader, store := store', active := builtin' }) := by
        rw [Decoder.start, sameKind, read]
        rfl
      have sessions := sessions_of_stores stores moved (Reader.inside_of_start read).1
      have answers := program_answers sessions context
      cases ran : Decode.program context { reader, store, active := builtin } with
      | mk result after =>
        cases result with
        | error fault =>
          obtain ⟨after', ran'⟩ := answers.faulted trivial ran
          rw [Program.outcome_of_ran started ran, Program.outcome_of_ran started' ran']
          rfl
        | ok program =>
          obtain ⟨program', after', ran', programs, still, _⟩ := answers.answered ran
          have listings : program'.listing after'.store = program.listing after.store :=
            listing_eq still programs
          rw [Program.outcome_of_ran started ran, Program.outcome_of_ran started' ran']
          exact congrArg (fun listing => Except.ok (Except.ok listing)) listings

end Gap

/-! ## Blobs without look-ups -/

section

open Stepping

theorem Command.toByte_of_ofByte? {byte : UInt8} {command : Command}
    (found : ofByte? byte = some command) : command.toByte = byte := by
  obtain ⟨inside, same⟩ := List.getElem?_eq_some_iff.mp found
  have distinct : all.Nodup := by decide
  rw [toByte, ← same, distinct.idxOf_getElem, UInt8.ofNat_toNat]

theorem Read.u8_cases {reader after : Reader} {byte : UInt8}
    (read : u8 reader = (.ok byte, after)) : reader.bytes[reader.offset]? = some byte := by
  obtain ⟨raw, middle, rawRead, same⟩ := exists_of_bind_run read
  obtain ⟨bytes, last, bytesRead, sum⟩ := exists_of_bind_run rawRead
  cases same
  cases sum
  rw [Read.bytes, bind_ok (get_apply reader)] at bytesRead
  split at bytesRead
  · rename_i inside
    have room : reader.offset < reader.bytes.size := inside
    cases bytesRead
    have single : reader.bytes.extract reader.offset (reader.offset + 1) =
        #[reader.bytes[reader.offset]] := by
      apply Array.ext
      · simp; omega
      · intro i h1 h2
        simp at h2
        subst h2
        simp
    rw [single, Array.getElem?_eq_getElem room]
    simp [ofLittleEndian]
  · cases bytesRead

theorem LooksUp.tag_mem {blob : Array UInt8} {name : String} (looksUp : LooksUp blob name) :
    Command.systemType.toByte ∈ blob := by
  obtain ⟨offset, found⟩ := looksUp
  cases tagRead : Read.command ⟨blob, offset⟩ with
  | mk outcome middle =>
    rw [Read.systemTypeName, bind_apply, tagRead] at found
    cases outcome with
    | error fault => cases found
    | ok tag =>
      cases tag with
      | systemType =>
        obtain ⟨byte, last, byteRead, rest⟩ := exists_of_bind_run tagRead
        have here := Read.u8_cases byteRead
        cases known : Command.ofByte? byte with
        | none =>
          rw [known] at rest
          cases rest
        | some command =>
          rw [known] at rest
          cases rest
          rw [Command.toByte_of_ofByte? known]
          exact Array.mem_of_getElem? here
      | _ => cases found

end

/-! ## What a call leaves behind -/

/-- What a decoded program leaves in the store it was decoded in. Its symbol table left all older
tables as they were; with its elements, some new symbols arrived in the starting table. -/
structure Program.Leaves (context : Context) (store : Store) (builtin : TableId)
    (bytes : Array UInt8) (program : Program) (arrived : List Symbol) (after : Decoder) : Prop where
  parts : ∃ start middle,
    Decoder.start store builtin bytes = .ok (.ok start) ∧
      Decode.table true start = (.ok program.table?, middle) ∧
      Decode.elements context middle = (.ok program.elements, after) ∧
      (∀ table < store.tables.size, middle.store.tables[table]? = store.tables[table]?) ∧
      ∀ symbol ∈ arrived, middle.store.nextId ≤ symbol.id
  receives : store.Receives builtin arrived after.store
  /-- No other older table changed, and no older symbol got an initial value or a definition. -/
  grows : ∃ created,
    store.Grows (.ofStore store store.tables.size) builtin created after.store
  isSealed : after.store.Sealed

theorem Store.isBuiltin_eq_of_header? {store later : Store} {id : TableId}
    (same : later.header? id = store.header? id) : later.isBuiltin id = store.isBuiltin id := by
  have kind (store : Store) : store.isBuiltin id = ((store.header? id).map Prod.snd).getD false := by
    rw [isBuiltin, header?]
    cases store.tables[id]? <;> rfl
  rw [kind, kind, same]

namespace Program

variable {program : Program} {after : Decoder}

/-- Decoding gives no initial value and no definition to a symbol that is still to come. -/
theorem sealed_of_ofBlob (isSealed : store.Sealed)
    (decoded : ofBlob context store builtin bytes = .ok (.ok (program, after))) :
    after.store.Sealed := by
  obtain ⟨decoder, started, ran⟩ := ofBlob_cases decoded
  obtain ⟨_, reader, read, same⟩ := Decoder.start_cases started
  have inside := ((Origin.ofStore_starts store).sound started).active_lt
  subst same
  -- The session is compared with itself: nothing lies between the two stores.
  have grows : store.Grows (.ofStore store 0) builtin [] store := .refl store
  have stores : (Gap.between store store).Stores (LooksUp bytes) store store :=
    .of_grows grows rfl isSealed isSealed fun _ _ _ _ => rfl
  have fixed : (Gap.between store store).table builtin = builtin := raised_of_lt _ inside
  have sessions := Gap.sessions_of_stores stores fixed (Reader.inside_of_start read).1
  have answers := Gap.program_answers sessions context
  obtain ⟨_, _, _, _, still, _⟩ := answers.answered ran
  exact still.stores.isSealed

theorem exists_leaves (isSealed : store.Sealed)
    (decoded : ofBlob context store builtin bytes = .ok (.ok (program, after))) :
    ∃ arrived, Leaves context store builtin bytes program arrived after := by
  obtain ⟨start, started, ran⟩ := ofBlob_cases decoded
  obtain ⟨table?, middle, tableRan, rest⟩ := Stepping.exists_of_bind_run ran
  obtain ⟨elements, last, elementsRan, ended⟩ := Stepping.exists_of_bind_run rest
  cases ended
  have sound := (Origin.ofStore_starts store).sound started
  obtain ⟨_, reader, _, same⟩ := Decoder.start_cases started
  have sameStore : start.store = store := by rw [same]
  have sameActive : start.active = builtin := by rw [same]
  obtain ⟨tableEvents, tableHistory⟩ := sound.history context (.table true)
  have tableEnd : start.afterCall context (.table true) = middle := congrArg Prod.snd tableRan
  rw [tableEnd] at tableHistory
  have tableLaws := tableHistory.sound_extended sound
  obtain ⟨events, history⟩ := tableLaws.1.history context .elements
  have elementsEnd : middle.afterCall context .elements = after := congrArg Prod.snd elementsRan
  rw [elementsEnd] at history
  have elementsLaws := history.sound_extended tableLaws.1
  have grows := (tableLaws.2.trans elementsLaws.2).store
  have rests : ∀ table < store.tables.size,
      middle.store.tables[table]? = store.tables[table]? := by
    intro table old
    rw [← sameStore] at old ⊢
    exact Decode.table_unchanged tableRan old
  have inside : builtin < store.tables.size := by
    rw [← sameActive, ← sameStore]
    exact sound.active_lt
  refine ⟨arrivals builtin (Event.createdSymbols events), ?_⟩
  refine
    { parts := ⟨start, middle, started, tableRan, elementsRan, rests, ?_⟩
      receives := ?_
      grows := ?_
      isSealed := sealed_of_ofBlob isSealed decoded }
  · intro symbol arrived
    exact elementsLaws.2.store.arrivals_new symbol arrived
  · have first : Store.Receives builtin store [] middle.store := .of_unchanged (rests builtin inside)
    exact first.trans (history.receives tableLaws.1 inside)
  · rw [sameStore, sameActive] at grows
    exact ⟨_, grows⟩

/-- After a program was decoded, another blob has the outcome that it would have had without that,
unless it looks up a type by a name that one of the symbols left behind has and that was vacant. -/
theorem outcome_after (isSealed : store.Sealed)
    (decoded : ofBlob context store builtin bytes = .ok (.ok (program, after))) :
    ∃ arrived, Leaves context store builtin bytes program arrived after ∧
      ∀ (policy : Context) (next : Array UInt8),
        (∀ symbol ∈ arrived, store.findLocal? builtin symbol.name = none →
          ¬LooksUp next symbol.name) →
        outcome policy after.store builtin next = outcome policy store builtin next := by
  obtain ⟨arrived, leaves⟩ := exists_leaves isSealed decoded
  refine ⟨arrived, leaves, ?_⟩
  intro policy next unseen
  obtain ⟨created, grows⟩ := leaves.grows
  obtain ⟨start, _, started, _⟩ := leaves.parts
  have inside := ((Origin.ofStore_starts store).sound started).active_lt
  obtain ⟨_, reader, _, same⟩ := Decoder.start_cases started
  rw [same] at inside
  -- Only the starting table has new bindings, and the next blob looks up none of them.
  have stores : (Gap.between store after.store).Stores (LooksUp next) store after.store := by
    refine .of_grows grows rfl isSealed leaves.isSealed ?_
    intro table old name looksUp
    by_cases starting : table = builtin
    · rw [starting]
      apply leaves.receives.findLocal?_kept
      intro symbol member named vacant
      rw [← named] at looksUp vacant
      exact unseen symbol member vacant looksUp
    · exact Store.findLocal?_eq_of_tables (grows.unchanged table old starting) name
  have fixed : (Gap.between store after.store).table builtin = builtin := raised_of_lt _ inside
  have sameKind := Store.isBuiltin_eq_of_header? (grows.header_eq builtin inside)
  exact Gap.outcome_eq stores fixed sameKind policy

/-! ### Small programs -/

/-- A blob with one element, an enum that is defined on the spot. -/
def strayBlob : Array UInt8 := #[6, 0, 1, 0, 1, 69, 57, 17, 22, 7, 0, 0, 4, 0, 23]

/-- A blob with one element, a type that is looked up by the name of that enum. -/
def lookupBlob : Array UInt8 := #[6, 0, 1, 0, 1, 69, 57, 17, 22, 13, 0, 0, 4, 0, 23]

theorem exists_ofBlob_strayBlob :
    ∃ program after, ofBlob {} Decoder.emptyStore 0 strayBlob = .ok (.ok (program, after)) ∧
      (after.store.owned 0).length = 1 ∧
      (outcome {} after.store 0 lookupBlob).toOption.isSome = true := by
  let seen (result : Program × Decoder) : Bool :=
    (result.2.store.owned 0).length == 1 &&
      (outcome {} result.2.store 0 lookupBlob).toOption.isSome
  have evidence : ((ofBlob {} Decoder.emptyStore 0 strayBlob).toOption.bind Except.toOption).any
      seen = true := by decide +kernel
  obtain ⟨program, after, decoded, holds⟩ := exists_of_any evidence
  obtain ⟨one, listed⟩ := (Bool.and_eq_true _ _).mp holds
  exact ⟨program, after, decoded, eq_of_beq one, listed⟩

/-- The enum stays in the starting table, where a later blob finds it. -/
theorem strayBlob_seen :
    ∃ program after, ofBlob {} Decoder.emptyStore 0 strayBlob = .ok (.ok (program, after)) ∧
      after.store.owned 0 ≠ Decoder.emptyStore.owned 0 ∧
      outcome {} after.store 0 lookupBlob ≠ outcome {} Decoder.emptyStore 0 lookupBlob := by
  obtain ⟨program, after, decoded, one, listed⟩ := exists_ofBlob_strayBlob
  refine ⟨program, after, decoded, ?_, ?_⟩
  · intro same
    rw [same] at one
    cases one
  · intro same
    have missing : (outcome {} Decoder.emptyStore 0 lookupBlob).toOption.isSome = false := by
      decide +kernel
    rw [same, missing] at listed
    cases listed

/-- A blob without look-ups comes out the same, also after itself. -/
theorem strayBlob_twice : ∃ program after arrived,
    ofBlob {} Decoder.emptyStore 0 strayBlob = .ok (.ok (program, after)) ∧
      Leaves {} Decoder.emptyStore 0 strayBlob program arrived after ∧
      outcome {} after.store 0 strayBlob = outcome {} Decoder.emptyStore 0 strayBlob := by
  obtain ⟨program, after, decoded, _⟩ := exists_ofBlob_strayBlob
  have isSealed : Decoder.emptyStore.Sealed := ⟨fun _ _ => rfl, fun _ _ => rfl⟩
  obtain ⟨arrived, leaves, again⟩ := outcome_after isSealed decoded
  refine ⟨program, after, arrived, decoded, leaves, again {} strayBlob ?_⟩
  intro symbol _ _ looksUp
  have untagged : Command.systemType.toByte ∉ strayBlob := by decide +kernel
  exact untagged looksUp.tag_mem

end Program

end Shading
