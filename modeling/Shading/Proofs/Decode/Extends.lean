import Shading.Proofs.Decode.History

/-!
What every history of decoding respects: the session moves forward in its blob, it keeps its active
table, and its store grows. `Decoder.Sound` holds at every time after an origin and is what these
laws need of the session before. Both are shown for a single change first; a history then adds up
its changes.
-/

namespace Shading

/-- What holds of a session at every time after an origin. -/
structure Decoder.Sound (origin : Origin) (decoder : Decoder) : Prop where
  inside : decoder.reader.offset ≤ decoder.reader.bytes.size
  active_lt : decoder.active < decoder.store.tables.size
  ids_le : origin.ids ≤ decoder.store.nextId
  tables_le : origin.tables ≤ decoder.store.tables.size
  registered : ∀ (id : Nat) (symbol : Symbol),
    decoder.registry[id]?.join = some symbol → origin.Knows decoder.store symbol
  bound : ∀ table name type, decoder.store.findLocal? table name = some (.type type) →
    origin.Knows decoder.store (.type type)
  recent : ∀ table, origin.tables ≤ table →
    ∀ symbol ∈ decoder.store.owned table, origin.ids ≤ symbol.id

/-- How a session goes on over some events. -/
structure Decoder.Extends (origin : Origin) (before : Decoder) (events : List Event)
    (after : Decoder) : Prop where
  active_eq : after.active = before.active
  advances : before.reader.Advances after.reader
  tags_le : before.reader.offset + Event.tagCount events ≤ after.reader.offset
  store : before.store.Grows origin before.active (Event.createdSymbols events) after.store

variable {origin : Origin} {before middle after : Decoder} {events : List Event}
  {level : Level}

theorem Origin.Knows.mono {active : TableId} {store larger : Store} {symbol : Symbol}
    {created : List (Symbol × TableId)} (known : origin.Knows store symbol)
    (grows : store.Grows origin active created larger) : origin.Knows larger symbol := by
  refine ⟨?_, known.typed⟩
  rcases known.housed with ⟨recent, table, owned⟩ | visible
  · refine Or.inl ⟨recent, table, ?_⟩
    rw [grows.owned_eq]
    exact List.mem_append_left _ owned
  · exact Or.inr visible

namespace Decoder

/-- A growing store keeps a session sound if it binds no types that the session does not know. -/
theorem Sound.withStore {decoder : Decoder} {store : Store} {created : List (Symbol × TableId)}
    (sound : decoder.Sound origin)
    (grows : decoder.store.Grows origin decoder.active created store)
    (bound : ∀ table name type, store.findLocal? table name = some (.type type) →
      decoder.store.findLocal? table name = some (.type type) ∨
        origin.Knows store (.type type)) :
    Sound origin { decoder with store } where
  inside := sound.inside
  active_lt := Nat.lt_of_lt_of_le sound.active_lt grows.size_le
  ids_le := Nat.le_trans sound.ids_le grows.nextId_le
  tables_le := Nat.le_trans sound.tables_le grows.size_le
  registered id symbol found := (sound.registered id symbol found).mono grows
  bound table name type found := by
    rcases bound table name type found with old | known
    · exact (sound.bound table name type old).mono grows
    · exact known
  recent table young symbol member := by
    dsimp only at member
    rw [grows.owned_eq, List.mem_append] at member
    rcases member with old | new
    · exact sound.recent table young symbol old
    · exact Nat.le_trans sound.ids_le (grows.arrivals_new symbol new)

theorem Sound.withReader {decoder : Decoder} {reader : Reader} (sound : decoder.Sound origin)
    (moved : decoder.reader.Advances reader) : Sound origin { decoder with reader } :=
  { sound with inside := moved.inside sound.inside }

namespace Extends

theorem refl (decoder : Decoder) : Extends origin decoder [] decoder where
  active_eq := rfl
  advances := .refl decoder.reader
  tags_le := Nat.le_refl _
  store := .refl decoder.store

theorem trans {earlier later : List Event} (first : Extends origin before earlier middle)
    (second : Extends origin middle later after) :
    Extends origin before (earlier ++ later) after where
  active_eq := second.active_eq.trans first.active_eq
  advances := first.advances.trans second.advances
  tags_le := by
    have firstTags := first.tags_le
    have secondTags := second.tags_le
    rw [Event.tagCount_append]
    omega
  store := by
    have sameActive := second.store
    rw [first.active_eq] at sameActive
    rw [Event.createdSymbols_append]
    exact first.store.trans sameActive

theorem of_store {decoder : Decoder} {store : Store}
    (untagged : Event.tagCount events = 0)
    (grows : decoder.store.Grows origin decoder.active (Event.createdSymbols events) store) :
    Extends origin decoder events { decoder with store } where
  active_eq := rfl
  advances := .refl decoder.reader
  tags_le := by
    rw [untagged]
    exact Nat.le_refl _
  store := grows

end Extends

end Decoder

namespace Decode

/-- Room in a registry is empty. -/
theorem lookup_grown (registry : Array (Option Symbol)) (id place : Nat) :
    (grown registry id)[place]?.join = registry[place]?.join := by
  rw [grown, Array.getElem?_append]
  split
  · rfl
  · rename_i outside
    rw [Array.getElem?_replicate, Array.getElem?_eq_none (by omega)]
    split <;> rfl

theorem lookup_registered {registry : Array (Option Symbol)} {id place : Nat}
    {symbol found : Symbol}
    (lookup : (registry.setIfInBounds id (some symbol))[place]?.join = some found) :
    found = symbol ∨ registry[place]?.join = some found := by
  rw [Array.getElem?_setIfInBounds] at lookup
  split at lookup
  · split at lookup
    · exact Or.inl (Option.some.inj lookup).symm
    · cases lookup
  · exact Or.inr lookup

end Decode

namespace Change

theorem extended (changed : Change origin level before events after) (sound : before.Sound origin) :
    before.Extends origin events after := by
  cases changed with
  | read moved => exact ⟨rfl, moved, moved.offset_le, .refl _⟩
  | tag read =>
    have oneByte := Read.offset_of_command_ok read
    exact ⟨rfl, Read.command_forward.moved read, Nat.le_of_eq oneByte.symm, .refl _⟩
  | create new typed => exact .of_store rfl (.create new sound.active_lt)
  | waste =>
    exact .of_store rfl (.of_tables_eq rfl (Nat.le_succ _) (fun _ _ => rfl) fun _ _ => rfl)
  | grow id => exact ⟨rfl, .refl _, Nat.le_refl _, .refl _⟩
  | register vacant known => exact ⟨rfl, .refl _, Nat.le_refl _, .refl _⟩
  | openTable parent? => exact .of_store rfl (.openTable parent? sound.tables_le)
  | bind recent opened known => exact .of_store rfl (.bind recent opened)
  | attach recent attached => exact .of_store rfl (.attach recent attached)
  | define recent defined => exact .of_store rfl (.define recent defined)
  | release definition => exact .of_store rfl (.release definition)

theorem sound (changed : Change origin level before events after) (sound : before.Sound origin) :
    after.Sound origin := by
  have grows := (changed.extended sound).store
  cases changed with
  | read moved => exact sound.withReader moved
  | tag read => exact sound.withReader (Read.command_forward.moved read)
  | create new typed =>
    refine sound.withStore grows ?_
    intro table name type found
    have inside : before.active < before.store.fresh.2.tables.size := sound.active_lt
    rw [Store.findLocal?_adopt _ _ _ _ _ inside, Option.or_eq_some_iff] at found
    rcases found with old | ⟨_, new⟩
    · exact Or.inl old
    · split at new
      · cases new
        refine Or.inr ⟨Or.inl ⟨?_, before.active, ?_⟩, typed⟩
        · exact Nat.le_trans sound.ids_le (Nat.le_of_eq new.symm)
        · rw [Store.owned_adopt _ _ _ _ inside, if_pos rfl]
          exact List.mem_append_right _ (List.mem_singleton_self _)
      · cases new
  | waste => exact sound.withStore grows fun _ _ _ found => Or.inl found
  | grow id =>
    refine { sound with registered := ?_ }
    intro place symbol found
    rw [Decode.lookup_grown] at found
    exact sound.registered place symbol found
  | register vacant known =>
    refine { sound with registered := ?_ }
    intro place symbol found
    rcases Decode.lookup_registered found with same | old
    · subst same
      exact known
    · exact sound.registered place symbol old
  | openTable parent? =>
    refine sound.withStore grows ?_
    intro table name type found
    rw [Store.findLocal?_newTable] at found
    exact Or.inl found
  | bind recent opened known =>
    refine sound.withStore grows ?_
    intro other name type found
    rw [Store.findLocal?_bind _ _ _ _ _ opened] at found
    split at found
    · cases found
      exact Or.inr (known.mono grows)
    · exact Or.inl found
  | attach recent attached =>
    refine sound.withStore grows ?_
    intro table name type found
    rw [Store.findLocal?, Store.tables_of_attachInitial attached] at found
    exact Or.inl found
  | define recent defined =>
    refine sound.withStore grows ?_
    intro table name type found
    rw [Store.findLocal?, Store.tables_of_define defined] at found
    exact Or.inl found
  | release definition => exact sound.withStore grows fun _ _ _ found => Or.inl found

end Change

namespace History

/-- A sound session stays sound, and goes on as `Extends` says. -/
theorem sound_extended (history : History origin level before events after)
    (sound : before.Sound origin) :
    after.Sound origin ∧ before.Extends origin events after := by
  induction history with
  | nothing level decoder => exact ⟨sound, .refl decoder⟩
  | change changed => exact ⟨changed.sound sound, changed.extended sound⟩
  | andThen first second firstHypothesis secondHypothesis =>
    have middle := firstHypothesis sound
    have last := secondHypothesis middle.1
    exact ⟨last.1, middle.2.trans last.2⟩
  | record whole inductionHypothesis => exact inductionHypothesis sound
  | @inside before after table events recent opened inner inductionHypothesis =>
    -- Inside, the table that was active before counts as an old one, which rests.
    have entered : Decoder.Sound origin { before with active := table } :=
      { sound with active_lt := opened }
    have left := inductionHypothesis entered
    have grows := left.2.store.whileInside before.active recent
    have stillThere : before.active < after.store.tables.size :=
      Nat.lt_of_lt_of_le sound.active_lt grows.size_le
    refine ⟨{ left.1 with active_lt := stillThere }, ?_⟩
    exact ⟨rfl, left.2.advances, left.2.tags_le, grows⟩

end History

end Shading
