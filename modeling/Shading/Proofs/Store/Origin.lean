import Shading.Proofs.Store.Table

/-!
Stores that grow from an origin. An `Origin` marks what existed at some earlier time, so that it can
be said what may only happen to newer tables and symbols. `Store.Grows` compares two stores after
it: new symbols are added at the end of what tables own, tables from before the origin keep their
bindings, and only the active one of them changes at all.
-/

namespace Shading

/-- The state of a session at an earlier time: how many ids and tables were given out, and the types
that names stood for. They belong to a family of types that is closed under what programs make of
types. -/
structure Origin where
  ids : Nat
  tables : Nat
  visible : Ty → Prop
  types : Ty → Prop
  visible_mem : ∀ type, visible type → types type
  array_mem : ∀ id component size, types component →
    types (.array { id, name := component.arrayName size } component size)
  struct_mem : ∀ id name members, (∀ member ∈ members, types member.type) →
    types (.struct { id, name } members)
  enum_mem : ∀ id name, types (.enum { id, name })

/-- What decoding may rely on for a symbol: it is newer than the origin and some table owns it, or
it is a type that a name stood for at the origin; and every type is one of the family. -/
structure Origin.Knows (origin : Origin) (store : Store) (symbol : Symbol) : Prop where
  housed : (origin.ids ≤ symbol.id ∧ ∃ table, symbol ∈ store.owned table) ∨
    ∃ type, symbol = .type type ∧ origin.visible type
  typed : ∀ type, symbol = .type type → origin.types type

/-- The symbols that went to one table. -/
def arrivals (table : TableId) (created : List (Symbol × TableId)) : List Symbol :=
  created.filterMap fun entry => if entry.2 = table then some entry.1 else none

@[simp]
theorem arrivals_append (table : TableId) (earlier later : List (Symbol × TableId)) :
    arrivals table (earlier ++ later) = arrivals table earlier ++ arrivals table later := by
  exact List.filterMap_append

theorem mem_arrivals {table : TableId} {created : List (Symbol × TableId)} {symbol : Symbol} :
    symbol ∈ arrivals table created ↔ (symbol, table) ∈ created := by
  rw [arrivals, List.mem_filterMap]
  constructor
  · rintro ⟨entry, member, here⟩
    split at here
    · rename_i same
      cases here
      rwa [← same]
    · cases here
  · intro member
    exact ⟨_, member, if_pos rfl⟩

/-- How tables came to own created symbols: each symbol has a new id, greater than those before it,
and is added once, at the end of what the table beside it owns. -/
structure Store.Takes (before : Store) (created : List (Symbol × TableId)) (after : Store) :
    Prop where
  nextId_le : before.nextId ≤ after.nextId
  size_le : before.tables.size ≤ after.tables.size
  created_new : ∀ entry ∈ created, before.nextId ≤ entry.1.id ∧ entry.1.id < after.nextId
  created_increasing : (created.map fun entry => entry.1.id).Pairwise (· < ·)
  owned_eq : ∀ table, after.owned table = before.owned table ++ arrivals table created

/-- How the store grows while a table is active and symbols are created. -/
structure Store.Grows (origin : Origin) (active : TableId) (before : Store)
    (created : List (Symbol × TableId)) (after : Store) : Prop
    extends Store.Takes before created after where
  unchanged : ∀ table < origin.tables, table ≠ active → after.tables[table]? = before.tables[table]?
  header_eq : ∀ table < before.tables.size, after.header? table = before.header? table
  binding_kept : ∀ table < origin.tables, ∀ name symbol,
    before.findLocal? table name = some symbol → after.findLocal? table name = some symbol
  initial_eq : ∀ target : Variable, target.id < origin.ids →
    after.initial? target = before.initial? target
  definition_eq : ∀ function : Function, function.id < origin.ids →
    (after.definitions.lookup function.id).map DefinitionLink.definition =
      (before.definitions.lookup function.id).map DefinitionLink.definition

namespace Store

variable {origin : Origin} {active : TableId} {before middle after : Store}

theorem findLocal?_eq_of_tables {table : TableId}
    (same : after.tables[table]? = before.tables[table]?) (name : String) :
    after.findLocal? table name = before.findLocal? table name := by
  rw [findLocal?, findLocal?, same]

namespace Takes

theorem of_owned_eq (ids : before.nextId ≤ after.nextId)
    (size : before.tables.size ≤ after.tables.size)
    (owned : ∀ table, after.owned table = before.owned table) : Takes before [] after where
  nextId_le := ids
  size_le := size
  created_new := nofun
  created_increasing := .nil
  owned_eq table := by
    rw [owned]
    exact (List.append_nil _).symm

theorem trans {earlier later : List (Symbol × TableId)} (first : Takes before earlier middle)
    (second : Takes middle later after) : Takes before (earlier ++ later) after where
  nextId_le := Nat.le_trans first.nextId_le second.nextId_le
  size_le := Nat.le_trans first.size_le second.size_le
  created_new entry member := by
    have firstIds := first.nextId_le
    have secondIds := second.nextId_le
    rcases List.mem_append.mp member with inEarlier | inLater
    · have new := first.created_new entry inEarlier
      omega
    · have new := second.created_new entry inLater
      omega
  created_increasing := by
    rw [List.map_append, List.pairwise_append]
    refine ⟨first.created_increasing, second.created_increasing, ?_⟩
    intro old oldMember new newMember
    obtain ⟨oldEntry, inEarlier, rfl⟩ := List.mem_map.mp oldMember
    obtain ⟨newEntry, inLater, rfl⟩ := List.mem_map.mp newMember
    have oldBound := (first.created_new oldEntry inEarlier).2
    have newBound := (second.created_new newEntry inLater).1
    omega
  owned_eq table := by
    rw [second.owned_eq, first.owned_eq, List.append_assoc, ← arrivals_append]

theorem create {symbol : Symbol} (new : symbol.id = before.nextId)
    (inside : active < before.tables.size) :
    Takes before [(symbol, active)] (before.fresh.2.adopt active symbol) where
  nextId_le := Nat.le_succ _
  size_le := Nat.le_of_eq (size_adopt ..).symm
  created_new entry member := by
    rw [List.mem_singleton.mp member, nextId_adopt, nextId_fresh]
    dsimp only
    omega
  created_increasing := List.pairwise_singleton _ _
  owned_eq table := by
    have stillInside : active < before.fresh.2.tables.size := inside
    rw [owned_adopt _ _ _ _ stillInside, arrivals, List.filterMap_cons]
    split <;> simp_all [owned]

theorem openTable (parent? : Option TableId) :
    Takes before [] (before.newTable parent? true).2 := by
  refine .of_owned_eq (Nat.le_refl _) ?_ fun table => owned_newTable before table parent? true
  rw [size_newTable]
  exact Nat.le_succ _

theorem bind (table : TableId) (symbol : Symbol) : Takes before [] (before.bind table symbol) :=
  .of_owned_eq (Nat.le_refl _) (Nat.le_of_eq (size_bind ..).symm) fun other =>
    owned_bind before table other symbol

end Takes

namespace Grows

/-- A change that leaves the tables and their symbols alone. -/
theorem of_tables_eq (tables : after.tables = before.tables) (ids : before.nextId ≤ after.nextId)
    (initials : ∀ target : Variable, target.id < origin.ids →
      after.initial? target = before.initial? target)
    (definitions : ∀ function : Function, function.id < origin.ids →
      (after.definitions.lookup function.id).map DefinitionLink.definition =
        (before.definitions.lookup function.id).map DefinitionLink.definition) :
    Grows origin active before [] after where
  toTakes := .of_owned_eq ids (Nat.le_of_eq (congrArg Array.size tables.symm)) fun table =>
    owned_eq_of_tables table (congrArg (·[table]?) tables)
  unchanged table _ _ := by rw [tables]
  header_eq table _ := by rw [header?, header?, tables]
  binding_kept table _ name symbol bound := by
    rw [findLocal?_eq_of_tables (congrArg (·[table]?) tables), bound]
  initial_eq := initials
  definition_eq := definitions

theorem refl (store : Store) : Grows origin active store [] store := by
  exact of_tables_eq rfl (Nat.le_refl _) (fun _ _ => rfl) (fun _ _ => rfl)

theorem trans {earlier later : List (Symbol × TableId)}
    (first : Grows origin active before earlier middle)
    (second : Grows origin active middle later after) :
    Grows origin active before (earlier ++ later) after where
  toTakes := first.toTakes.trans second.toTakes
  unchanged table old other := by
    rw [second.unchanged table old other, first.unchanged table old other]
  header_eq table inside := by
    have stillInside : table < middle.tables.size := Nat.lt_of_lt_of_le inside first.size_le
    rw [second.header_eq table stillInside, first.header_eq table inside]
  binding_kept table old name symbol bound :=
    second.binding_kept table old name symbol (first.binding_kept table old name symbol bound)
  initial_eq target old := by
    rw [second.initial_eq target old, first.initial_eq target old]
  definition_eq function old := by
    rw [second.definition_eq function old, first.definition_eq function old]

/-- While a table from after the origin is active, all older tables are at rest. -/
theorem whileInside (active : TableId) {table : TableId} {created : List (Symbol × TableId)}
    (grows : Grows origin table before created after) (recent : origin.tables ≤ table) :
    Grows origin active before created after := by
  refine { grows with unchanged := ?_ }
  intro other old _
  have different : other ≠ table := Nat.ne_of_lt (Nat.lt_of_lt_of_le old recent)
  exact grows.unchanged other old different

theorem create {symbol : Symbol} (new : symbol.id = before.nextId)
    (inside : active < before.tables.size) :
    Grows origin active before [(symbol, active)] (before.fresh.2.adopt active symbol) where
  toTakes := .create new inside
  unchanged table _ other := by
    rw [tables_adopt, if_neg other.symm, tables_fresh]
  header_eq table _ := by
    rw [header?_adopt]
    rfl
  binding_kept table _ name bound found := by
    have stillInside : active < before.fresh.2.tables.size := inside
    have foundStill : before.fresh.2.findLocal? table name = some bound := found
    rw [findLocal?_adopt _ _ _ _ _ stillInside, foundStill, Option.some_or]
  initial_eq _ _ := rfl
  definition_eq _ _ := rfl

theorem openTable (parent? : Option TableId) (origins : origin.tables ≤ before.tables.size) :
    Grows origin active before [] (before.newTable parent? true).2 where
  toTakes := .openTable parent?
  unchanged table old _ := by
    have different : table ≠ before.tables.size := by omega
    rw [tables_newTable, if_neg different]
  header_eq table inside := header?_newTable before table parent? true inside
  binding_kept table _ name symbol bound := by
    rw [findLocal?_newTable, bound]
  initial_eq _ _ := rfl
  definition_eq _ _ := rfl

theorem bind {table : TableId} {symbol : Symbol} (recent : origin.tables ≤ table)
    (inside : table < before.tables.size) :
    Grows origin active before [] (before.bind table symbol) where
  toTakes := .bind table symbol
  unchanged other old _ := by
    have different : table ≠ other := Nat.ne_of_gt (Nat.lt_of_lt_of_le old recent)
    rw [tables_bind, if_neg different]
  header_eq other _ := header?_bind before table other symbol
  binding_kept other old name bound found := by
    have different : ¬(table = other ∧ name = symbol.name) := by
      intro both
      exact Nat.ne_of_gt (Nat.lt_of_lt_of_le old recent) both.1
    rw [findLocal?_bind _ _ _ _ _ inside, if_neg different, found]
  initial_eq _ _ := rfl
  definition_eq _ _ := rfl

theorem attach {target : Variable} {value : Expr} (recent : origin.ids ≤ target.id)
    (attached : before.attachInitial target value = .ok after) :
    Grows origin active before [] after := by
  rw [(attachInitial_cases attached).2]
  refine of_tables_eq rfl (Nat.le_refl _) ?_ fun _ _ => rfl
  intro other old
  have different : (other.id == target.id) = false := by
    rw [beq_eq_false_iff_ne]
    omega
  rw [initial?, List.lookup_cons, different, initial?]

theorem define {function : Function} (recent : origin.ids ≤ function.id)
    (defined : before.fresh.2.define function before.nextId = .ok after) :
    Grows origin active before [] after := by
  rw [define_cases defined]
  refine of_tables_eq rfl (Nat.le_succ _) (fun _ _ => rfl) ?_
  intro other old
  have different : (other.id == function.id) = false := by
    rw [beq_eq_false_iff_ne]
    omega
  dsimp only
  rw [List.lookup_cons, different]
  rfl

theorem release (definition : Nat) :
    Grows origin active before [] (before.release definition) := by
  refine of_tables_eq rfl (Nat.le_refl _) (fun _ _ => rfl) ?_
  intro function _
  rw [Store.release]
  dsimp only
  induction before.definitions with
  | nil => rfl
  | cons entry rest inductionHypothesis =>
    rw [List.map_cons, List.lookup_cons, List.lookup_cons]
    cases function.id == entry.1 with
    | false => exact inductionHypothesis
    | true =>
      dsimp only
      split <;> rfl

/-! ### What goes to a table -/

theorem arrivals_new {created : List (Symbol × TableId)} {table : TableId}
    (grows : Grows origin active before created after) :
    ∀ symbol ∈ arrivals table created, before.nextId ≤ symbol.id := by
  intro symbol member
  exact (grows.created_new _ (mem_arrivals.mp member)).1

theorem arrivals_increasing {created : List (Symbol × TableId)} (table : TableId)
    (grows : Grows origin active before created after) :
    (arrivals table created).Pairwise fun first second => first.id < second.id := by
  rw [arrivals, List.pairwise_filterMap]
  refine (List.pairwise_map.mp grows.created_increasing).imp ?_
  intro first second less symbol here other there
  split at here
  · cases here
    split at there
    · cases there
      exact less
    · cases there
  · cases here

/-! ### What is attached to older symbols -/

theorem lookup_initials {created : List (Symbol × TableId)} {id : Nat}
    (grows : Grows origin active before created after) (old : id < origin.ids) :
    after.initials.lookup id = before.initials.lookup id :=
  grows.initial_eq
    { id, modifiers := {}, name := "", type := Builtin.bool, builtin := true, storage := .parameter }
    old

theorem isSome_definitions {created : List (Symbol × TableId)} {id : Nat}
    (grows : Grows origin active before created after) (old : id < origin.ids) :
    (after.definitions.lookup id).isSome = (before.definitions.lookup id).isSome := by
  have known := grows.definition_eq
    { id, modifiers := {}, name := "", parameters := [], returnType := Builtin.bool, builtin := true }
    old
  have presence := congrArg Option.isSome known
  rwa [Option.isSome_map, Option.isSome_map] at presence

end Grows

end Store

end Shading
