import Mathlib.Algebra.GroupWithZero.Nat
import Shading.Proofs.Stepping
import Shading.Type.ResultType
import Shading.Type.Slots

/-!
The slots of types. The slots of an array are those of its elements and the slots of a struct those
of its members, so that a type has a scalar at each slot if all the types it is made of have slots
that can be counted.
-/

namespace Shading

theorem eq_of_addWords {left right total : Nat} (added : addWords left right = .ok total) :
    total = left + right := by
  rw [addWords] at added
  split at added
  · exact (Except.ok.inj added).symm
  · cases added

theorem eq_of_multiplyWords {left right total : Nat}
    (multiplied : multiplyWords left right = .ok total) : total = left * right := by
  rw [multiplyWords] at multiplied
  split at multiplied
  · exact (Except.ok.inj multiplied).symm
  · cases multiplied

namespace Ty

/-! ## The types that a type is made of -/

mutual

/-- A type with the types that it is made of. -/
def parts : Ty → List Ty
  | type@(array _ component _) => type :: component.parts
  | type@(struct _ members) => type :: memberParts members
  | type => [type]

def memberParts : List (MemberOf Ty) → List Ty
  | [] => []
  | ⟨_, _, type⟩ :: rest => type.parts ++ memberParts rest

end

theorem mem_parts_self (type : Ty) : type ∈ type.parts := by
  cases type with
  | array | struct =>
    rw [parts]
    exact List.mem_cons_self
  | _ => exact List.mem_singleton_self _

/-- No type that a type is made of has more slots than are counted. -/
def Countable (type : Ty) : Prop :=
  ∀ part ∈ type.parts, ∃ count, part.slotCount = .ok count

mutual

theorem slotType_ok : ∀ (type : Ty) (_ : type.Countable) (slot : Nat),
    ∃ scalar, type.slotType slot = .ok scalar
  | .array head component size, countable, slot => by
    have inside : component.Countable :=
      fun part member => countable part (List.mem_cons_of_mem _ member)
    obtain ⟨each, counted⟩ := inside component component.mem_parts_self
    obtain ⟨scalar, found⟩ := slotType_ok component inside (slot % each)
    rw [slotType, counted]
    change ∃ scalar, (if each = 0 then .ok (array head component size)
      else component.slotType (slot % each)) = .ok scalar
    split
    · exact ⟨_, rfl⟩
    · exact ⟨scalar, found⟩
  | .struct head members, countable, slot => by
    rw [slotType]
    exact memberSlotType_ok _ members
      (fun part member => countable part (List.mem_cons_of_mem _ member)) slot
  | .void _, _, _ | .invalid _, _, _ | .handle _, _, _ | .scalar .., _, _ | .literal .., _, _
  | .vector .., _, _ | .matrix .., _, _ | .enum _, _, _ | .generic .., _, _ => by
    simp only [slotType]
    exact ⟨_, rfl⟩

theorem memberSlotType_ok (whole : Ty) : ∀ (members : List (MemberOf Ty))
    (_ : ∀ part ∈ memberParts members, ∃ count, part.slotCount = .ok count) (slot : Nat),
    ∃ scalar, memberSlotType whole members slot = .ok scalar
  | [], _, _ => ⟨whole, rfl⟩
  | ⟨_, _, type⟩ :: rest, countable, slot => by
    have inside : type.Countable :=
      fun part member => countable part (List.mem_append_left _ member)
    obtain ⟨count, counted⟩ := inside type type.mem_parts_self
    have here := slotType_ok type inside slot
    have later := memberSlotType_ok whole rest
      (fun part member => countable part (List.mem_append_right _ member)) (slot - count)
    rw [memberSlotType, counted]
    change ∃ scalar, (if slot < count then type.slotType slot
      else memberSlotType whole rest (slot - count)) = .ok scalar
    split
    · exact here
    · exact later

end

/-! ## The number of slots -/

/-- Scalars, vectors and matrices have a slot for each column and row. -/
theorem slotCount_of_isShaped {type : Ty} (shaped : type.isShaped = true) :
    type.slotCount = .ok (type.columns * type.rows) := by
  cases type with
  | vector head component columns =>
    rw [slotCount]
    exact congrArg Except.ok (Nat.mul_one columns).symm
  | scalar | literal | matrix =>
    rw [slotCount]
    rfl
  | _ => cases shaped

theorem slotCount_of_isScalar {type : Ty} (scalar : type.isScalar = true) :
    type.slotCount = .ok 1 := by
  cases type with
  | scalar | literal => rfl
  | _ => cases scalar

theorem isScalar_of_isInteger {type : Ty} (integer : type.isInteger = true) :
    type.isScalar = true := by
  cases type with
  | scalar | literal => rfl
  | _ => cases integer

theorem component_of_isScalar {type : Ty} (scalar : type.isScalar = true) :
    type.component = type := by
  cases type with
  | scalar | literal => rfl
  | _ => cases scalar

theorem isShaped_of_compound {type : Ty} (compound : (type.isVector || type.isMatrix) = true) :
    type.isShaped = true := by
  rw [isShaped, Bool.or_assoc, compound, Bool.or_true]

/-- A type that has columns is a scalar, a vector or a matrix. -/
theorem isShaped_of_columns {type : Ty} (columns : type.columns ≠ 0) : type.isShaped = true := by
  cases type with
  | scalar | literal | vector | matrix => rfl
  | _ => exact absurd rfl columns

open Stepping

/-- An array has the slots of its elements, if their number is known, and none otherwise. -/
theorem slotCount_array {head : Head} {component : Ty} {size : ArraySize} {total : Nat}
    (counted : (array head component size).slotCount = .ok total) :
    (size = .unsized ∧ total = 0) ∨
      ∃ count each, size = .sized count ∧ component.slotCount = .ok each ∧
        total = count.toNat * each := by
  cases size with
  | unsized =>
    simp only [slotCount] at counted
    exact Or.inl ⟨rfl, (Except.ok.inj counted).symm⟩
  | sized count =>
    rw [slotCount] at counted
    obtain ⟨each, inside, product⟩ := exists_of_bind_ok counted
    exact Or.inr ⟨count, each, rfl, inside, eq_of_multiplyWords product⟩

/-- A sum that adds the slots of items, which have types, to those counted before. -/
structure SumsSlots {Item : Type} (typeOf : Item → Ty)
    (sum : Nat → List Item → Except Fault Nat) : Prop where
  nil : ∀ counted, sum counted [] = .ok counted
  cons : ∀ counted item rest, sum counted (item :: rest) = (do
    let count ← (typeOf item).slotCount
    let next ← addWords counted count
    sum next rest)

theorem SumsSlots.exists_counts {Item : Type} {typeOf : Item → Ty}
    {sum : Nat → List Item → Except Fault Nat} (sums : SumsSlots typeOf sum) {items : List Item}
    {counted total : Nat} (summed : sum counted items = .ok total) :
    ∃ counts : List Nat, items.map (fun item => (typeOf item).slotCount) = counts.map Except.ok ∧
      total = counted + counts.sum := by
  induction items generalizing counted with
  | nil =>
    rw [sums.nil] at summed
    exact ⟨[], rfl, (Except.ok.inj summed).symm⟩
  | cons item rest inductionHypothesis =>
    rw [sums.cons] at summed
    obtain ⟨count, here, more⟩ := exists_of_bind_ok summed
    obtain ⟨next, added, later⟩ := exists_of_bind_ok more
    obtain ⟨counts, same, equal⟩ := inductionHypothesis later
    refine ⟨count :: counts, ?_, ?_⟩
    · rw [List.map_cons, List.map_cons, here, same]
    · rw [equal, eq_of_addWords added, List.sum_cons]
      omega

theorem memberSlots_sumsSlots : SumsSlots (fun member => member.type) memberSlots where
  nil _ := by rw [memberSlots]
  cons _ _ _ := by rw [memberSlots]

end Ty

end Shading
