import Shading.Fault
import Shading.Type.Basic

/-!
Slots. A value is laid out as a row of scalars, its slots: the components of a vector, the columns
of a matrix one after the other, the elements of an array, the members of a struct. Slots are
counted in machine words, and a count that no word holds is a fault.
-/

namespace Shading

/-- The bound below which a machine word counts. -/
def wordLimit : Nat := 0x10000000000000000

/-- A sum that a machine word holds. -/
def addWords (left right : Nat) : Except Fault Nat :=
  if left + right < wordLimit then .ok (left + right) else .error .addOverflow

/-- A product that a machine word holds. -/
def multiplyWords (left right : Nat) : Except Fault Nat :=
  if left * right < wordLimit then .ok (left * right) else .error .multiplyOverflow

namespace Ty

mutual

/-- The number of slots of a value. Arrays without a size and types without values have none. -/
def slotCount : Ty → Except Fault Nat
  | scalar .. | literal .. => .ok 1
  | vector _ _ columns => .ok columns
  | matrix _ _ columns rows => .ok (columns * rows)
  | array _ component (.sized count) => do
    let each ← component.slotCount
    multiplyWords count.toNat each
  | struct _ members => memberSlots 0 members
  | _ => .ok 0

/-- The slots of the members of a struct, on top of those counted before. -/
def memberSlots (counted : Nat) : List (MemberOf Ty) → Except Fault Nat
  | [] => .ok counted
  | ⟨_, _, type⟩ :: rest => do
    let count ← type.slotCount
    let total ← addWords counted count
    memberSlots total rest

end

mutual

/-- The scalar type at a slot. Where there is no such slot, the type that has none answers. -/
def slotType : Ty → Nat → Except Fault Ty
  | vector _ component _, _ => .ok component
  | matrix _ component _ _, _ => .ok component
  | type@(array _ component _), slot => do
    let each ← component.slotCount
    if each = 0 then .ok type else component.slotType (slot % each)
  | type@(struct _ members), slot => memberSlotType type members slot
  | type, _ => .ok type

/-- The scalar type at a slot of the remaining members of a struct. -/
def memberSlotType (whole : Ty) : List (MemberOf Ty) → Nat → Except Fault Ty
  | [], _ => .ok whole
  | ⟨_, _, type⟩ :: rest, slot => do
    let count ← type.slotCount
    if slot < count then type.slotType slot else memberSlotType whole rest (slot - count)

end

end Ty

end Shading
