import Shading.Proofs.Decode.Again
import Shading.Proofs.Store.Import

/-!
Blobs that are decoded in one store, each below a root table of its own. The store may hold any
number of programs that were decoded before: a new root sees none of them, so a blob comes out as if
it were the only one. Main statement: `Store.Ready.outcome_newRoot`.
-/

namespace Shading

variable {context : Context} {store : Store} {bytes : Array UInt8}

/-! ## Root tables -/

theorem Table.owned_bindAll {types : List Ty} {table : Table} :
    (types.foldl (fun t type => t.bind (.type type)) table).owned = table.owned := by
  induction types generalizing table with
  | nil => rfl
  | cons type rest inductionHypothesis => rw [List.foldl_cons, inductionHypothesis, owned_bind]

namespace Store

/-- A root table, which is the same in every store. -/
def rootTable : Table :=
  Builtin.all.foldl (fun t type => t.bind (.type type)) { builtin := true }

theorem tables_newRoot (store : Store) (table : TableId) :
    store.newRoot.2.tables[table]? =
      if table = store.tables.size then some rootTable else store.tables[table]? := by
  rw [newRoot]
  dsimp only
  rw [tables_update, tables_newTable]
  have root_iff : (store.newTable none true).1 = table ↔ table = store.tables.size := eq_comm
  by_cases root : table = store.tables.size
  · rw [if_pos (root_iff.mpr root), if_pos root, if_pos root]
    rfl
  · rw [if_neg (mt root_iff.mp root), if_neg root, if_neg root]

theorem root_newRoot {store : Store} : store.newRoot.1 = store.tables.size := by
  rfl

theorem size_newRoot (store : Store) : store.newRoot.2.tables.size = store.tables.size + 1 := by
  have size : store.newRoot.2.tables.size = (store.newTable none true).2.tables.size :=
    Array.size_modify
  rw [size, size_newTable]

theorem rootTable_top : rootTable.parent? = none ∧ rootTable.builtin = true := by
  have header : rootTable.header = (none, true) := by
    rw [rootTable, Table.header_bindAll]
    rfl
  rwa [Table.header, Prod.mk.injEq] at header

theorem owned_rootTable : rootTable.owned = [] := by
  rw [rootTable, Table.owned_bindAll]

theorem isBuiltin_newRoot (store : Store) : store.newRoot.2.isBuiltin store.newRoot.1 = true := by
  rw [isBuiltin, tables_newRoot, if_pos root_newRoot, Option.map_some, rootTable_top.2]
  rfl

/-- The first root of all is the only table. -/
theorem tables_newRoot_empty (table : TableId) :
    (newRoot {}).2.tables[table]? = if table = 0 then some rootTable else none := by
  rw [tables_newRoot]
  rfl

/-- A store in which programs may have been decoded: nothing is attached to symbols that are still
to come, or to a builtin type. -/
structure Ready (store : Store) : Prop where
  isSealed : store.Sealed
  ids_le : Builtin.count ≤ store.nextId
  initials : ∀ id < Builtin.count, store.initials.lookup id = none
  definitions : ∀ id < Builtin.count, (store.definitions.lookup id).isSome = false

namespace Ready

theorem empty : Ready {} where
  isSealed := ⟨fun _ _ => rfl, fun _ _ => rfl⟩
  ids_le := Nat.le_refl _
  initials _ _ := rfl
  definitions _ _ := rfl

theorem newRoot (ready : store.Ready) : store.newRoot.2.Ready :=
  ⟨⟨ready.isSealed.initials, ready.isSealed.definitions⟩, ready.ids_le, ready.initials,
    ready.definitions⟩

theorem lookup_release (store : Store) (definition id : Nat) :
    ((store.release definition).definitions.lookup id).isSome =
      (store.definitions.lookup id).isSome := by
  have grows : Store.Grows (.ofStore { store with nextId := id + 1 } 0) 0 store []
      (store.release definition) := .release definition
  exact grows.isSome_definitions (Nat.lt_succ_self id)

theorem release (ready : store.Ready) (definition : Nat) : (store.release definition).Ready where
  isSealed := by
    refine ⟨ready.isSealed.initials, fun id new => ?_⟩
    have absent := lookup_release store definition id
    rw [ready.isSealed.definitions id new] at absent
    exact Option.isNone_iff_eq_none.mp (Option.isSome_eq_false_iff.mp absent)
  ids_le := ready.ids_le
  initials := ready.initials
  definitions id old := (lookup_release store definition id).trans (ready.definitions id old)

/-- The elements of a program go. -/
theorem releaseAll (ready : store.Ready) (elements : List Element) :
    (elements.foldl Element.release store).Ready := by
  induction elements generalizing store with
  | nil => exact ready
  | cons element rest inductionHypothesis =>
    refine inductionHypothesis ?_
    cases element with
    | function definition => exact ready.release definition.id
    | enum | interfaceBlock | global | struct => exact ready

theorem decoded (ready : store.Ready) {root : TableId} {program : Program} {after : Decoder}
    (decoded : Program.ofBlob context store root bytes = .ok (.ok (program, after))) :
    after.store.Ready := by
  obtain ⟨arrived, leaves⟩ := Program.exists_leaves ready.isSealed decoded
  obtain ⟨created, grows⟩ := leaves.grows
  have old {id : Nat} (builtin : id < Builtin.count) :
      id < (Origin.ofStore store store.tables.size).ids :=
    Nat.lt_of_lt_of_le builtin ready.ids_le
  exact
    { isSealed := leaves.isSealed
      ids_le := Nat.le_trans ready.ids_le grows.nextId_le
      initials := fun id builtin => (grows.lookup_initials (old builtin)).trans
        (ready.initials id builtin)
      definitions := fun id builtin => (grows.isSome_definitions (old builtin)).trans
        (ready.definitions id builtin) }

/-! ## Two roots -/

/-- The gap between the first root of all and a root in a store that is in use. -/
def gap (store : Store) : Gap where
  ids := Builtin.count
  tables := 0
  moreIds := store.nextId - Builtin.count
  moreTables := store.tables.size

theorem gap_table (store : Store) (table : TableId) :
    (gap store).table table = table + store.tables.size :=
  raised_of_le _ (Nat.zero_le _)

/-- A table at or behind the root is the root, or there is none. -/
theorem tables_behind (store : Store) (table : TableId) :
    store.newRoot.2.tables[(gap store).table table]? = if table = 0 then some rootTable else none := by
  have root_iff : table + store.tables.size = store.tables.size ↔ table = 0 := Nat.add_eq_right
  rw [gap_table, tables_newRoot]
  by_cases root : table = 0
  · rw [if_pos root, if_pos (root_iff.mpr root)]
  · rw [if_neg root, if_neg (mt root_iff.mp root),
      Array.getElem?_eq_none (Nat.le_add_left _ _)]

/-- No id that the gap leads to has anything attached, since none below it has. -/
theorem free_behind {α : Type} {entries : List (Nat × α)} (ready : store.Ready)
    (old : ∀ id < Builtin.count, (entries.lookup id).isSome = false)
    (new : ∀ id, store.nextId ≤ id → entries.lookup id = none) (id : Nat) :
    (entries.lookup ((gap store).symbol id)).isSome = false := by
  have ids_le := ready.ids_le
  by_cases builtin : id < Builtin.count
  · have fixed : (gap store).symbol id = id := raised_of_lt _ builtin
    rw [fixed, old id builtin]
  · have moved : (gap store).symbol id = id + (store.nextId - Builtin.count) :=
      raised_of_le _ (Nat.le_of_not_lt builtin)
    rw [moved, new _ (by omega)]
    rfl

/-- What a root sees is the same in every store, for whatever names. -/
theorem stores (ready : store.Ready) (named : String → Prop) :
    (gap store).Stores named (Store.newRoot {}).2 store.newRoot.2 where
  nextId_eq := (Nat.add_sub_cancel' ready.ids_le).symm
  ids_le := Nat.le_refl _
  size_eq := by
    rw [size_newRoot, size_newRoot]
    exact Nat.add_comm _ _
  tables_le := Nat.zero_le _
  olderParent?_eq table := by
    rw [olderParent?, olderParent?, tables_behind, tables_newRoot_empty]
    by_cases root : table = 0
    · rw [if_pos root, Option.bind_some, Option.bind_some, rootTable_top.1]
      rfl
    · rw [if_neg root]
      rfl
  localType?_alike table name _ := by
    rw [localType?, localType?, findLocal?, findLocal?, tables_behind, tables_newRoot_empty]
    cases (if table = 0 then some rootTable else none).bind (Table.find? · name) with
    | none => rfl
    | some symbol => exact congrArg some (Gap.Stores.alike_of_types (some symbol))
  owned_alike table _ := by
    rw [owned, owned, tables_behind, tables_newRoot_empty]
    by_cases root : table = 0
    · rw [if_pos root, Option.map_some, owned_rootTable]
      rfl
    · rw [if_neg root]
      rfl
  owned_drawn table _ symbol member := by
    rw [owned, tables_newRoot_empty] at member
    by_cases root : table = 0
    · rw [if_pos root, Option.map_some, owned_rootTable] at member
      cases member
    · rw [if_neg root] at member
      cases member
  initial_iff := free_behind ready
    (fun id builtin => congrArg Option.isSome (ready.initials id builtin)) ready.isSealed.initials
  definition_iff := free_behind ready ready.definitions ready.isSealed.definitions
  isSealed := empty.newRoot.isSealed

/-- Below a new root, a blob has the outcome that it has alone. -/
theorem outcome_newRoot (ready : store.Ready) (context : Context) (bytes : Array UInt8) :
    Program.outcome context store.newRoot.2 store.newRoot.1 bytes =
      Program.outcome context (Store.newRoot {}).2 (Store.newRoot {}).1 bytes := by
  have moved : (gap store).table (Store.newRoot {}).1 = store.newRoot.1 := by
    rw [gap_table]
    exact Nat.zero_add _
  have sameKind : store.newRoot.2.isBuiltin store.newRoot.1 =
      (Store.newRoot {}).2.isBuiltin (Store.newRoot {}).1 := by
    rw [isBuiltin_newRoot, isBuiltin_newRoot]
  exact Gap.outcome_eq (ready.stores _) moved sameKind context

end Ready

end Store

end Shading
