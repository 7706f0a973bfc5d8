import Shading.Proofs.Decode.Parallel

/-!
Symbols and symbol tables of two parallel sessions. Where one session makes a symbol the other makes
one that is alike, under the same id of the blob and in tables that correspond.
-/

namespace Shading

/-- Two ids that stand for each other, of which the first was drawn. -/
structure Parallel.Ids (parallel : Parallel) (bound : Nat) (id id' : Nat) : Prop where
  symbols_eq : parallel.first.symbols id = parallel.second.symbols id'
  types_eq : parallel.first.types id = parallel.second.types id'
  drawn : parallel.Drawn bound id

namespace Decode

open Parallel Stepping
open Renamable (rename)

variable {α : Type} {parallel : Parallel} {bound : Nat}

/-! ## Ids and the registry -/

theorem freshId_follows : parallel.Follows bound freshId freshId parallel.Ids := by
  intro decoder decoder' drawn related
  have ids := parallel.ids_alike related
  have last := parallel.drawn_last decoder.store.nextId
  exact .value ⟨ids.1, ids.2, last⟩ (parallel.waste related) (Nat.le_succ _)

theorem adopt_follows {symbol symbol' : Symbol}
    (alike : Alike parallel.first parallel.second symbol symbol')
    (drawn : parallel.Drawn bound symbol.id) :
    parallel.Follows bound (adopt symbol) (adopt symbol') fun _ _ _ => True := by
  intro decoder decoder' le related
  have still := parallel.adopt related alike (parallel.drawn_mono le drawn)
  exact .value trivial still (Nat.le_refl _)

theorem register_follows (id : UInt16) {symbol symbol' : Symbol}
    (symbols : parallel.Symbols bound symbol symbol') :
    parallel.Follows bound (register id symbol) (register id symbol') parallel.Symbols := by
  intro decoder decoder' le related
  have known : (∃ type, symbol = .type type) ∨ parallel.Drawn decoder.store.nextId symbol.id :=
    symbols.2.imp_right (parallel.drawn_mono le)
  have alike := (parallel.registered related id.toNat).1
  rcases register_cases id symbol decoder with ⟨vacant, ran⟩ | ⟨⟨other, taken⟩, ran⟩
  · rcases register_cases id symbol' decoder' with ⟨_, ran'⟩ | ⟨⟨other, taken⟩, _⟩
    · rw [ran, ran']
      exact .value ⟨symbols.1, known⟩ (parallel.enter related id symbols.1 known) (Nat.le_refl _)
    · rw [vacant, taken] at alike
      cases alike
  · rcases register_cases id symbol' decoder' with ⟨vacant, _⟩ | ⟨_, ran'⟩
    · rw [taken, vacant] at alike
      cases alike
    · rw [ran, ran']
      exact .fault _ _ _

theorem enter_follows (id : UInt16) {symbol symbol' : Symbol}
    (alike : Alike parallel.first parallel.second symbol symbol')
    (drawn : parallel.Drawn bound symbol.id) :
    parallel.Follows bound (enter id symbol) (enter id symbol') parallel.Symbols := by
  apply (adopt_follows alike drawn).bind
  intro larger le _ _ _
  exact register_follows id ⟨alike, Or.inr (parallel.drawn_mono le drawn)⟩

theorem registered_follows (id : UInt16) :
    parallel.Follows bound (registered id) (registered id) parallel.Symbols := by
  apply Follows.afterGet
  intro decoder decoder' le related
  obtain ⟨alike, known⟩ := parallel.registered related id.toNat
  cases found : decoder.registry[id.toNat]?.join with
  | none =>
    rw [found] at alike
    cases found' : decoder'.registry[id.toNat]?.join with
    | none => exact .fault _ _ _
    | some symbol' =>
      rw [found'] at alike
      cases alike
  | some symbol =>
    rw [found] at alike
    cases found' : decoder'.registry[id.toNat]?.join with
    | none =>
      rw [found'] at alike
      cases alike
    | some symbol' =>
      rw [found'] at alike
      exact .value ⟨Option.some.inj alike, known symbol found⟩ related (Nat.le_refl _)

/-! ## Symbols of a kind -/

theorem asType_follows {symbol symbol' : Symbol} (symbols : parallel.Symbols bound symbol symbol') :
    parallel.Follows bound (liftM symbol.asType) (liftM symbol'.asType) parallel.Values := by
  apply Follows.liftAlike
  rw [Alike, ← Symbol.rename_asType, ← Symbol.rename_asType, symbols.1]

theorem asVariable_follows {symbol symbol' : Symbol}
    (symbols : parallel.Symbols bound symbol symbol') :
    parallel.Follows bound (liftM symbol.asVariable) (liftM symbol'.asVariable)
      parallel.Variables := by
  have alike : Alike parallel.first parallel.second symbol.asVariable symbol'.asVariable := by
    rw [Alike, ← Symbol.rename_asVariable, ← Symbol.rename_asVariable, symbols.1]
  apply Follows.lift
  apply (Agrees.of_alike alike).mono
  intro target target' is alikeTargets larger le
  refine ⟨alikeTargets, parallel.drawn_mono le ?_⟩
  cases symbol with
  | var found =>
    cases is
    rcases symbols.2 with ⟨type, same⟩ | drawn
    · cases same
    · exact drawn
  | _ => cases is

theorem asFunction_follows {symbol symbol' : Symbol}
    (symbols : parallel.Symbols bound symbol symbol') :
    parallel.Follows bound (liftM symbol.asFunction) (liftM symbol'.asFunction)
      parallel.Functions := by
  have alike : Alike parallel.first parallel.second symbol.asFunction symbol'.asFunction := by
    rw [Alike, ← Symbol.rename_asFunction, ← Symbol.rename_asFunction, symbols.1]
  apply Follows.lift
  apply (Agrees.of_alike alike).mono
  intro function function' is alikeFunctions larger le
  refine ⟨alikeFunctions, parallel.drawn_mono le ?_⟩
  cases symbol with
  | function found =>
    cases is
    rcases symbols.2 with ⟨type, same⟩ | drawn
    · cases same
    · exact drawn
  | _ => cases is

/-! ## New symbols -/

section New

variable {new new' : Nat}

theorem alike_array (ids : parallel.Ids bound new new') {component component' : Ty}
    (alike : Alike parallel.first parallel.second component component') (size : ArraySize) :
    Alike parallel.first parallel.second
      (.type (.array { id := new, name := component.arrayName size } component size))
      (Symbol.type (.array { id := new', name := component'.arrayName size } component' size)) := by
  have names : component'.arrayName size = component.arrayName size :=
    alike.kept (Ty.arrayName · size) fun _ component => component.arrayName_rename size
  show Symbol.type (.array { id := parallel.first.types new, name := _ } (rename _ component) size) =
    .type (.array { id := parallel.second.types new', name := _ } (rename _ component') size)
  rw [names, ids.types_eq, alike]

theorem alike_enum (ids : parallel.Ids bound new new') (name : String) :
    Alike parallel.first parallel.second (.type (.enum { id := new, name }))
      (Symbol.type (.enum { id := new', name })) := by
  show Symbol.type (.enum { id := parallel.first.types new, name }) =
    .type (.enum { id := parallel.second.types new', name })
  rw [ids.types_eq]

theorem alike_struct (ids : parallel.Ids bound new new') (name : String)
    {members members' : List Member}
    (alike : Alike parallel.first parallel.second members members') :
    Alike parallel.first parallel.second (.type (.struct { id := new, name } members))
      (Symbol.type (.struct { id := new', name } members')) := by
  show Symbol.type (.struct { id := parallel.first.types new, name } (Ty.renamedMembers _ members)) =
    .type (.struct { id := parallel.second.types new', name } (Ty.renamedMembers _ members'))
  rw [Ty.renamedMembers_eq, Ty.renamedMembers_eq, ids.types_eq, alike]

theorem alike_function (ids : parallel.Ids bound new new') (modifiers : Modifiers) (name : String)
    {parameters parameters' : List Variable} {returnType returnType' : Ty}
    (alikeParameters : Alike parallel.first parallel.second parameters parameters')
    (alikeReturn : Alike parallel.first parallel.second returnType returnType') :
    Alike parallel.first parallel.second
      (.function { id := new, modifiers, name, parameters, returnType, builtin := true })
      (Symbol.function
        { id := new', modifiers, name, parameters := parameters', returnType := returnType',
          builtin := true }) := by
  show Symbol.function
      { id := parallel.first.symbols new, modifiers, name, parameters := rename _ parameters,
        returnType := rename _ returnType, builtin := true } =
    .function
      { id := parallel.second.symbols new', modifiers, name, parameters := rename _ parameters',
        returnType := rename _ returnType', builtin := true }
  rw [ids.symbols_eq, alikeParameters, alikeReturn]

theorem alike_variable (ids : parallel.Ids bound new new') (modifiers : Modifiers) (name : String)
    (storage : Storage) {type type' : Ty} (alike : Alike parallel.first parallel.second type type') :
    Alike parallel.first parallel.second
      (.var { id := new, modifiers, name, type, builtin := true, storage })
      (Symbol.var { id := new', modifiers, name, type := type', builtin := true, storage }) := by
  show Symbol.var
      { id := parallel.first.symbols new, modifiers, name, type := rename _ type, builtin := true,
        storage } =
    .var
      { id := parallel.second.symbols new', modifiers, name, type := rename _ type',
        builtin := true, storage }
  rw [ids.symbols_eq, alike]

theorem alike_synonym (ids : parallel.Ids bound new new') (name : String)
    {target target' : Symbol} (alike : Alike parallel.first parallel.second target target') :
    Alike parallel.first parallel.second (.synonym new .nowhere name target)
      (Symbol.synonym new' .nowhere name target') := by
  show Symbol.synonym (parallel.first.symbols new) .nowhere name (rename _ target) =
    .synonym (parallel.second.symbols new') .nowhere name (rename _ target')
  rw [ids.symbols_eq, alike]

theorem alike_ofIndex (ids : parallel.Ids bound new new') {owner owner' : Variable}
    (alike : Alike parallel.first parallel.second owner owner') (index : Nat) :
    Alike parallel.first parallel.second (BlockMember.ofIndex new .nowhere owner index)
      (BlockMember.ofIndex new' .nowhere owner' index) := by
  rw [Alike, ← BlockMember.rename_ofIndex, ← BlockMember.rename_ofIndex, ids.symbols_eq, alike]

theorem alike_ofFunctions (ids : parallel.Ids bound new new') {functions functions' : List Function}
    (alike : Alike parallel.first parallel.second functions functions') :
    Alike parallel.first parallel.second (OverloadSet.ofFunctions new functions)
      (OverloadSet.ofFunctions new' functions') := by
  rw [Alike, ← OverloadSet.rename_ofFunctions, ← OverloadSet.rename_ofFunctions, ids.symbols_eq,
    alike]

end New

/-- What was made under a new id is alike, and the first session drew its id. -/
theorem made_follows [Renamable α] {larger new : Nat} {made made' : Except Fault α}
    {symbolOf : α → Symbol} (alike : Alike parallel.first parallel.second made made')
    (labelled : ∀ value, made = .ok value → (symbolOf value).id = new)
    (drawn : parallel.Drawn larger new) :
    parallel.Follows larger (liftM made) (liftM made') fun above value value' =>
      Alike parallel.first parallel.second value value' ∧
        parallel.Drawn above (symbolOf value).id := by
  apply Follows.lift
  apply (Agrees.of_alike alike).mono
  intro value value' isMade alikeValues above le
  refine ⟨alikeValues, ?_⟩
  rw [labelled value isMade]
  exact parallel.drawn_mono le drawn

/-- A new symbol that can always be made. -/
theorem enterNew_follows {symbolOf symbolOf' : Nat → Symbol} (id : UInt16)
    (labelled : ∀ new, (symbolOf new).id = new)
    (alike : ∀ larger new new', parallel.Ids larger new new' →
      Alike parallel.first parallel.second (symbolOf new) (symbolOf' new')) :
    parallel.Follows bound (freshId >>= fun new => enter id (symbolOf new))
      (freshId >>= fun new => enter id (symbolOf' new)) parallel.Symbols := by
  apply freshId_follows.bind
  intro larger _ new new' ids
  have drawn : parallel.Drawn larger (symbolOf new).id := by
    rw [labelled]
    exact ids.drawn
  exact enter_follows id (alike larger new new' ids) drawn

/-! ## Records -/

variable {nested nested' : Decode Symbol}

theorem structMember_follows
    (follows : parallel.Follows bound nested nested' parallel.Symbols) :
    parallel.Follows bound (structMember nested) (structMember nested') parallel.Values := by
  apply Follows.nextThen Read.modifiers_local
  intro modifiers
  apply Follows.nextThen Read.string_local
  intro name
  apply follows.bind
  intro larger _ symbol symbol' symbols
  apply (asType_follows symbols).bind
  intro _ _ type type' alike
  refine .pure fun _ _ => ?_
  show MemberOf.mk modifiers name (rename _ type) = MemberOf.mk modifiers name (rename _ type')
  rw [alike]

theorem symbolRecord_follows
    (follows : parallel.Follows bound nested nested' parallel.Symbols) {tag : Command}
    (noLookup : tag ≠ .systemType) :
    parallel.Follows bound (symbolRecord nested tag) (symbolRecord nested' tag)
      parallel.Symbols := by
  cases tag with
  | arrayType =>
    apply Follows.nextThen Read.u16_local
    intro id
    apply follows.bind
    intro _ _ symbol symbol' symbols
    apply (asType_follows symbols).bind
    intro _ _ component component' alike
    apply Follows.nextThen Read.s8_local
    intro size
    apply enterNew_follows id fun _ => rfl
    intro _ new new' ids
    exact alike_array ids alike _
  | enumType =>
    apply Follows.nextThen Read.u16_local
    intro id
    apply Follows.nextThen Read.string_local
    intro name
    apply enterNew_follows id fun _ => rfl
    intro _ new new' ids
    exact alike_enum ids name
  | functionSymbol =>
    apply Follows.nextThen Read.u16_local
    intro id
    apply Follows.nextThen Read.modifiers_local
    intro modifiers
    apply Follows.nextThen Read.string_local
    intro name
    apply Follows.nextThen Read.u8_local
    intro count
    have parameter := follows.bind fun _ _ _ _ symbols => asVariable_follows symbols
    apply ((parameter.weaken fun _ _ _ _ owners => owners.1).timesAlike count.toNat).bind
    intro _ le parameters parameters' alikeParameters
    apply (follows.mono le).bind
    intro _ _ symbol symbol' symbols
    apply (asType_follows symbols).bind
    intro _ _ returnType returnType' alikeReturn
    apply enterNew_follows id fun _ => rfl
    intro _ new new' ids
    exact alike_function ids modifiers name alikeParameters alikeReturn
  | field =>
    apply follows.bind
    intro _ _ symbol symbol' symbols
    apply (asVariable_follows symbols).bind
    intro _ _ owner owner' owners
    apply Follows.nextThen Read.u8_local
    intro index
    apply freshId_follows.bind
    intro _ _ new new' ids
    have labelled : ∀ field, BlockMember.ofIndex new .nowhere owner index.toNat = .ok field →
        (Symbol.member field).id = new := by
      intro field made
      rw [BlockMember.ofIndex] at made
      split at made
      · cases made
        rfl
      · cases made
    apply (made_follows (alike_ofIndex ids owners.1 index.toNat) labelled ids.drawn).bind
    intro _ _ field field' known
    have alike : Alike parallel.first parallel.second (Symbol.member field) (.member field') :=
      congrArg Symbol.member known.1
    apply (adopt_follows alike known.2).bind
    intro _ le _ _ _
    exact .pure fun _ above =>
      ⟨alike, Or.inr (parallel.drawn_mono (Nat.le_trans le above) known.2)⟩
  | structType =>
    apply Follows.nextThen Read.u16_local
    intro id
    apply Follows.nextThen Read.string_local
    intro name
    apply Follows.nextThen Read.u8_local
    intro count
    apply ((structMember_follows follows).timesAlike count.toNat).bind
    intro _ _ members members' alike
    apply enterNew_follows id fun _ => rfl
    intro _ new new' ids
    exact alike_struct ids name alike
  | symbolRef => exact .nextThen Read.u16_local registered_follows
  | synonym =>
    apply Follows.nextThen Read.u16_local
    intro id
    apply Follows.nextThen Read.string_local
    intro name
    apply follows.bind
    intro _ _ target target' symbols
    have labelled (new : Nat) : (Symbol.synonym new .nowhere name target).id = new := rfl
    apply enterNew_follows id labelled
    intro _ new new' ids
    exact alike_synonym ids name symbols.1
  | systemType => exact absurd rfl noLookup
  | overloadSet =>
    apply Follows.nextThen Read.u16_local
    intro id
    apply Follows.nextThen Read.u8_local
    intro count
    have member := follows.bind fun _ _ _ _ symbols => asFunction_follows symbols
    apply ((member.weaken fun _ _ _ _ functions => functions.1).timesAlike count.toNat).bind
    intro _ _ functions functions' alike
    apply freshId_follows.bind
    intro _ _ new new' ids
    have labelled : ∀ set, OverloadSet.ofFunctions new functions = .ok set →
        (Symbol.overloads set).id = new := by
      intro set made
      cases functions with
      | nil => cases made
      | cons first others =>
        cases made
        rfl
    apply (made_follows (alike_ofFunctions ids alike) labelled ids.drawn).bind
    intro _ _ set set' known
    exact enter_follows id (congrArg Symbol.overloads known.1) known.2
  | varSymbol =>
    apply Follows.nextThen Read.u16_local
    intro id
    apply Follows.nextThen Read.modifiers_local
    intro modifiers
    apply Follows.nextThen Read.string_local
    intro name
    apply follows.bind
    intro _ _ symbol symbol' symbols
    apply (asType_follows symbols).bind
    intro _ _ type type' alike
    apply Follows.nextThen Read.storage_local
    intro storage
    apply enterNew_follows id fun _ => rfl
    intro _ new new' ids
    exact alike_variable ids modifiers name storage alike
  | _ => exact .throw _

/-- A type record. Only here does it matter what the blob says before: that it looks up this name
is known once its tag, its id and the name are read. -/
theorem systemType_answers {before : Reader} {decoder decoder' : Decoder}
    (tagged : Read.command before = (.ok .systemType, decoder.reader))
    (sameBytes : before.bytes = decoder.reader.bytes)
    (related : parallel.Related decoder decoder') :
    parallel.Answers decoder.store.nextId parallel.Symbols
      (symbolRecord nested .systemType decoder) (symbolRecord nested' .systemType decoder') := by
  apply (Follows.next Read.u16_local decoder decoder' (Nat.le_refl _) related).bind
  intro id id' numbered numbered' idRan _ relatedId sameId
  obtain ⟨afterId, idRead, rfl⟩ := next_cases idRan
  subst id'
  apply (Follows.next Read.string_local _ numbered' (Nat.le_refl _) relatedId).bind
  intro name name' named named' nameRan _ relatedName sameName
  obtain ⟨afterName, nameRead, rfl⟩ := next_cases nameRan
  subst name'
  have looksUp : LooksUp afterName.bytes name := by
    refine ⟨before.offset, ?_⟩
    have sameStart : (⟨afterName.bytes, before.offset⟩ : Reader) = before := by
      have afterIdBytes := (Read.u16_forward.moved idRead).bytes_eq
      have afterNameBytes := (Read.string_forward.moved nameRead).bytes_eq
      rw [afterNameBytes, afterIdBytes, ← sameBytes]
    rw [sameStart, Read.systemTypeName, bind_ok tagged]
    dsimp only
    rw [bind_ok idRead, nameRead]
  have types : Agrees parallel.strict (Alike parallel.first parallel.second) _ _ :=
    .of_alike (parallel.visible relatedName looksUp)
  have found : parallel.Answers decoder.store.nextId parallel.Values
      (systemType name { decoder with reader := afterName }) (systemType name named') := by
    rw [systemType_apply, systemType_apply]
    exact .of_agrees types relatedName
  apply found.bind
  intro type type' middle middle' _ _ between alike
  exact register_follows id ⟨congrArg Symbol.type alike, Or.inl ⟨type, rfl⟩⟩ middle middle'
    (Nat.le_refl _) between

/-- One more symbol around the others. -/
theorem tagged_follows (follows : parallel.Follows bound nested nested' parallel.Symbols) :
    parallel.Follows bound (do symbolRecord nested (← next .command))
      (do symbolRecord nested' (← next .command)) parallel.Symbols := by
  intro decoder decoder' drawn related
  apply (Follows.next Read.command_local decoder decoder' drawn related).bind
  intro tag tag' middle middle' tagRan grown between sameTag
  subst tag'
  obtain ⟨reader, tagRead, rfl⟩ := next_cases tagRan
  by_cases looksUp : tag = .systemType
  · subst tag
    have sameBytes := (Read.command_forward.moved tagRead).bytes_eq
    exact systemType_answers tagRead sameBytes.symm between
  · exact symbolRecord_follows follows looksUp _ _ (Nat.le_trans drawn grown) between

theorem symbol_follows : parallel.Follows bound symbol symbol parallel.Symbols :=
  .nested rfl rfl fun _ _ => tagged_follows

theorem type_follows : parallel.Follows bound type type parallel.Values :=
  symbol_follows.bind fun _ _ _ _ symbols => asType_follows symbols

theorem targetVariable_follows :
    parallel.Follows bound targetVariable targetVariable parallel.Variables :=
  symbol_follows.bind fun _ _ _ _ symbols => asVariable_follows symbols

theorem function_follows : parallel.Follows bound function function parallel.Functions :=
  symbol_follows.bind fun _ _ _ _ symbols => asFunction_follows symbols

/-! ## Symbol tables -/

theorem openTable_follows (inherit : Bool) :
    parallel.Follows bound (openTable inherit) (openTable inherit) parallel.Tables := by
  intro decoder decoder' _ related
  obtain ⟨same, opened, still⟩ := parallel.openTable related inherit
  exact .value ⟨same, opened⟩ still (Nat.le_refl _)

theorem bindReference_follows {table table' : TableId} (tables : parallel.Tables bound table table')
    {decoded decoded' : List Symbol} (alike : Alike parallel.first parallel.second decoded decoded') :
    parallel.Follows bound (bindReference table decoded) (bindReference table' decoded')
      fun _ _ _ => True := by
  apply Follows.nextThen Read.u16_local
  intro index
  have sameLength : decoded'.length = decoded.length := by
    have lengths := congrArg List.length alike
    simpa [rename] using lengths.symm
  have place : (decoded[index.toNat]?).map (rename parallel.first) =
      (decoded'[index.toNat]?).map (rename parallel.second) := by
    rw [← List.getElem?_map, ← List.getElem?_map]
    exact congrArg (·[index.toNat]?) alike
  cases found : decoded[index.toNat]? with
  | none =>
    rw [found, Option.map_none, eq_comm, Option.map_eq_none_iff] at place
    rw [place, sameLength]
    exact .throw _
  | some symbol =>
    rw [found, Option.map_some, eq_comm, Option.map_eq_some_iff] at place
    obtain ⟨symbol', found', alikeSymbols⟩ := place
    rw [found']
    intro decoder decoder' _ related
    have still := parallel.bind related tables.2 tables.1 alikeSymbols.symm
    exact .value trivial still (Nat.le_refl _)

/-- The symbols of a table and its references, while the table is active. -/
theorem tableContent_follows {table table' : TableId} (tables : parallel.Tables bound table table')
    (count : Nat) :
    parallel.Follows bound
      (do
        let decoded ← times count symbol
        let references ← next .u16
        discard <| times references.toNat (bindReference table decoded))
      (do
        let decoded ← times count symbol
        let references ← next .u16
        discard <| times references.toNat (bindReference table' decoded))
      fun _ _ _ => True := by
  have decoding : parallel.Follows bound symbol symbol parallel.Values :=
    symbol_follows.weaken fun _ _ _ _ symbols => symbols.1
  apply (decoding.timesAlike count).bind
  intro _ le decoded decoded' alike
  apply Follows.nextThen Read.u16_local
  intro references
  apply Follows.discard
  have reference := (bindReference_follows tables alike).mono le
  exact reference.times (fun _ _ => True) trivial (fun _ _ => trivial) references.toNat

theorem table_follows (inherit : Bool) :
    parallel.Follows bound (table inherit) (table inherit) parallel.TablesIf := by
  apply Follows.nextThen Read.command_local
  intro tag
  cases tag with
  | absent => exact .pure fun _ _ => ⟨rfl, fun _ isNone => by cases isNone⟩
  | symbolTable =>
    apply Follows.nextThen Read.u16_local
    intro count
    apply (openTable_follows inherit).bind
    intro _ _ id id' tables
    apply ((tableContent_follows tables count.toNat).withActive tables.1).bind
    intro _ _ _ _ _
    refine .pure fun _ _ => ⟨congrArg some tables.1, fun table isSome => ?_⟩
    cases isSome
    exact tables.2
  | _ => exact .throw _

end Decode

end Shading
