import Shading.Proofs.Store.Table

/-!
The types that there can be: the builtin ones, and what programs make of types, which are arrays,
structs and enums. Nothing else makes types. In particular `bool` is the only boolean type.
-/

namespace Shading

/-- A type that is builtin or made by a program. -/
inductive Ty.Standard : Ty → Prop where
  | builtin {type : Ty} (member : type ∈ Builtin.all) : Standard type
  | array (head : Ty.Head) {component : Ty} (size : ArraySize) (standard : Standard component) :
      Standard (.array head component size)
  | struct (head : Ty.Head) {members : List Member}
      (standard : ∀ member ∈ members, Standard member.type) : Standard (.struct head members)
  | enum (head : Ty.Head) : Standard (.enum head)

theorem Builtin.filter_isBoolean : all.filter (·.isBoolean) = [bool] := by
  rfl

theorem Builtin.map_component_filter_isBoolean :
    (all.filter (·.component.isBoolean)).map Ty.component = [bool, bool, bool, bool] := by
  rfl

namespace Ty.Standard

theorem eq_bool {type : Ty} (standard : type.Standard) (boolean : type.isBoolean = true) :
    type = Builtin.bool := by
  cases standard with
  | builtin member =>
    have kept : type ∈ Builtin.all.filter (·.isBoolean) := List.mem_filter.mpr ⟨member, boolean⟩
    rw [Builtin.filter_isBoolean] at kept
    exact List.mem_singleton.mp kept
  | array | struct | enum => cases boolean

/-- The elements of boolean vectors and arrays are of type `bool` as well. -/
theorem component_eq_bool {type : Ty} (standard : type.Standard)
    (boolean : type.component.isBoolean = true) : type.component = Builtin.bool := by
  cases standard with
  | builtin member =>
    have kept : type ∈ Builtin.all.filter (·.component.isBoolean) :=
      List.mem_filter.mpr ⟨member, boolean⟩
    have image := List.mem_map_of_mem (f := Ty.component) kept
    rw [Builtin.map_component_filter_isBoolean] at image
    simpa using image
  | array head size elements => exact elements.eq_bool boolean
  | struct | enum => cases boolean

end Ty.Standard

/-- A store whose names stand for standard types, where they stand for types. -/
def Store.Standard (store : Store) : Prop :=
  ∀ table name type, store.findLocal? table name = some (.type type) → type.Standard

theorem Store.Standard.empty : Store.Standard {} := by
  intro table name type found
  rw [findLocal?, Array.getElem?_empty] at found
  cases found

theorem Table.find?_bindAll {types : List Ty} {table : Table} {name : String} {symbol : Symbol}
    (found : (types.foldl (fun t type => t.bind (.type type)) table).find? name = some symbol) :
    (∃ type ∈ types, symbol = .type type) ∨ table.find? name = some symbol := by
  induction types generalizing table with
  | nil => exact Or.inr found
  | cons type rest inductionHypothesis =>
    rcases inductionHypothesis found with ⟨later, member, same⟩ | here
    · exact Or.inl ⟨later, List.mem_cons_of_mem type member, same⟩
    · rw [Table.find?_bind] at here
      split at here
      · exact Or.inl ⟨type, List.mem_cons_self, (Option.some.inj here).symm⟩
      · exact Or.inr here

/-- A root table with the builtin types adds standard types only. -/
theorem Store.Standard.newRoot {store : Store} (standard : store.Standard) :
    store.newRoot.2.Standard := by
  intro table name type found
  rw [Store.newRoot] at found
  dsimp only at found
  rw [findLocal?, tables_update, newTable] at found
  dsimp only at found
  split at found
  · rename_i root
    rw [← root, Array.getElem?_push_size, Option.map_some, Option.bind_some] at found
    rcases Table.find?_bindAll found with ⟨bound, member, same⟩ | absent
    · cases same
      exact .builtin member
    · cases absent
  · rename_i other
    rw [Array.getElem?_push, if_neg (fun same => other same.symm)] at found
    exact standard table name type found

end Shading
