import Shading.Proofs.Type.Slots
import Shading.Proofs.Type.Standard

/-!
The slots of a type, written out. Flattening a type gives the scalars of its values in a row. The
number of slots is counted in words and never written out, and the type at a slot is found by
remainders and differences of such numbers; so the two are compared with the length and the entries
of the row, which are neither. Main statement: `Ty.slots_flattened`.
-/

namespace Shading

open Stepping

/-- Copies of a row, one after the other, repeat its entries. -/
theorem getElem?_flatten_replicate {α : Type} {row : List α} {copies slot : Nat}
    (below : slot < copies * row.length) :
    (List.replicate copies row).flatten[slot]? = row[slot % row.length]? := by
  induction copies generalizing slot with
  | zero => simp at below
  | succ copies inductionHypothesis =>
    rw [List.replicate_succ, List.flatten_cons]
    by_cases first : slot < row.length
    · rw [List.getElem?_append_left first, Nat.mod_eq_of_lt first]
    · rw [Nat.add_one_mul] at below
      rw [List.getElem?_append_right (by omega), inductionHypothesis (by omega),
        ← Nat.mod_eq_sub_mod (by omega)]

section Words

variable {left right total : Nat} {fault : Fault}

theorem lt_of_addWords (added : addWords left right = .ok total) : total < wordLimit := by
  rw [addWords] at added
  split at added
  · cases added
    assumption
  · cases added

theorem large_of_addWords (failed : addWords left right = .error fault) :
    fault = .addOverflow ∧ wordLimit ≤ left + right := by
  rw [addWords] at failed
  split at failed
  · cases failed
  · cases failed
    exact ⟨rfl, Nat.le_of_not_lt ‹_›⟩

theorem lt_of_multiplyWords (multiplied : multiplyWords left right = .ok total) :
    total < wordLimit := by
  rw [multiplyWords] at multiplied
  split at multiplied
  · cases multiplied
    assumption
  · cases multiplied

theorem large_of_multiplyWords (failed : multiplyWords left right = .error fault) :
    fault = .multiplyOverflow ∧ wordLimit ≤ left * right := by
  rw [multiplyWords] at failed
  split at failed
  · cases failed
  · cases failed
    exact ⟨rfl, Nat.le_of_not_lt ‹_›⟩

end Words

namespace Ty

mutual

/-- The scalars of a value of a type, in order. -/
def flatten : Ty → List Ty
  | type@(scalar ..) => [type]
  | type@(literal ..) => [type]
  | vector _ component columns => List.replicate columns component
  | matrix _ component columns rows => List.replicate (columns * rows) component
  | array _ component (.sized count) => (List.replicate count.toNat component.flatten).flatten
  | struct _ members => flattenMembers members
  | _ => []

/-- The scalars of the members of a struct, one member after the other. -/
def flattenMembers : List (MemberOf Ty) → List Ty
  | [] => []
  | ⟨_, _, type⟩ :: rest => type.flatten ++ flattenMembers rest

end

/-! ## The number of slots -/

mutual

theorem length_flatten : ∀ (type : Ty) {count : Nat} (_ : type.slotCount = .ok count),
    type.flatten.length = count
  | .array head component size, total, counted => by
    rcases slotCount_array counted with ⟨rfl, rfl⟩ | ⟨count, each, rfl, inside, rfl⟩
    · simp [flatten]
    · simp [flatten, length_flatten component inside]
  | .struct head members, total, counted => by
    rw [slotCount] at counted
    rw [flatten, ← length_flattenMembers members counted, Nat.zero_add]
  | .scalar .., _, counted | .literal .., _, counted | .vector .., _, counted
  | .matrix .., _, counted | .void _, _, counted | .invalid _, _, counted
  | .handle _, _, counted | .enum _, _, counted | .generic .., _, counted => by
    simp_all [flatten, slotCount]

theorem length_flattenMembers : ∀ (members : List (MemberOf Ty)) {counted total : Nat}
    (_ : memberSlots counted members = .ok total),
    counted + (flattenMembers members).length = total
  | [], counted, total, summed => by
    simp_all [flattenMembers, memberSlots]
  | ⟨_, _, type⟩ :: rest, counted, total, summed => by
    rw [memberSlots] at summed
    obtain ⟨count, here, more⟩ := exists_of_bind_ok summed
    obtain ⟨next, added, later⟩ := exists_of_bind_ok more
    have first := length_flatten type here
    have others := length_flattenMembers rest later
    rw [eq_of_addWords added] at others
    rw [flattenMembers, List.length_append]
    omega

end

/-! ## The type at a slot -/

mutual

theorem slotType_eq_ok : ∀ (type : Ty) {count slot : Nat} (_ : type.slotCount = .ok count)
    (_ : slot < count),
    ∃ scalar, type.slotType slot = .ok scalar ∧ type.flatten[slot]? = some scalar
  | .array head component size, total, slot, counted, below => by
    rcases slotCount_array counted with ⟨rfl, rfl⟩ | ⟨count, each, rfl, inside, rfl⟩
    · exact absurd below (Nat.not_lt_zero slot)
    · have width := length_flatten component inside
      have nonempty : 0 < each := Nat.pos_of_lt_mul_left below
      obtain ⟨scalar, found, entry⟩ :=
        slotType_eq_ok component inside (Nat.mod_lt slot nonempty)
      refine ⟨scalar, ?_, ?_⟩
      · rw [slotType, inside]
        change (if each = 0 then _ else component.slotType (slot % each)) = _
        rw [if_neg (by omega), found]
      · rw [flatten, getElem?_flatten_replicate (width.symm ▸ below), width, entry]
  | .struct head members, total, slot, counted, below => by
    rw [slotCount] at counted
    rw [slotType, flatten]
    exact memberSlotType_eq_ok _ members counted (by rwa [Nat.zero_add])
  | .scalar .., _, _, counted, below | .literal .., _, _, counted, below
  | .vector .., _, _, counted, below | .matrix .., _, _, counted, below => by
    simp_all [flatten, slotCount, slotType]
  | .void _, _, _, counted, below | .invalid _, _, _, counted, below
  | .handle _, _, _, counted, below | .enum _, _, _, counted, below
  | .generic .., _, _, counted, below => by
    rw [slotCount.eq_def] at counted
    cases counted
    exact absurd below (Nat.not_lt_zero _)

theorem memberSlotType_eq_ok (whole : Ty) : ∀ (members : List (MemberOf Ty))
    {counted total slot : Nat} (_ : memberSlots counted members = .ok total)
    (_ : counted + slot < total),
    ∃ scalar, memberSlotType whole members slot = .ok scalar ∧
      (flattenMembers members)[slot]? = some scalar
  | [], counted, total, slot, summed, below => by
    rw [memberSlots] at summed
    cases summed
    omega
  | ⟨_, _, type⟩ :: rest, counted, total, slot, summed, below => by
    rw [memberSlots] at summed
    obtain ⟨count, here, more⟩ := exists_of_bind_ok summed
    obtain ⟨next, added, later⟩ := exists_of_bind_ok more
    have width := length_flatten type here
    rw [memberSlotType, here, flattenMembers]
    change ∃ scalar, (if slot < count then type.slotType slot
      else memberSlotType whole rest (slot - count)) = .ok scalar ∧ _
    by_cases inside : slot < count
    · rw [if_pos inside, List.getElem?_append_left (by omega)]
      exact slotType_eq_ok type here inside
    · rw [if_neg inside, List.getElem?_append_right (by omega), width]
      have next_eq := eq_of_addWords added
      exact memberSlotType_eq_ok whole rest later (by omega)

end

/-! ## Scalars only -/

theorem isScalar_of_mem_flattenMembers {members : List Member} {scalar : Ty}
    (each : ∀ member ∈ members, ∀ entry ∈ member.type.flatten, entry.isScalar = true)
    (found : scalar ∈ flattenMembers members) : scalar.isScalar = true := by
  induction members with
  | nil => simp [flattenMembers] at found
  | cons member rest inductionHypothesis =>
    obtain ⟨here, later⟩ := List.forall_mem_cons.mp each
    rw [flattenMembers, List.mem_append] at found
    rcases found with first | other
    · exact here scalar first
    · exact inductionHypothesis later other

end Ty

theorem Builtin.isScalar_of_flatten :
    all.all (fun type => type.flatten.all (·.isScalar)) = true := by
  rfl

namespace Ty

theorem Standard.isScalar_of_mem_flatten {type scalar : Ty} (standard : type.Standard)
    (found : scalar ∈ type.flatten) : scalar.isScalar = true := by
  induction standard generalizing scalar with
  | builtin member =>
    exact List.all_eq_true.mp (List.all_eq_true.mp Builtin.isScalar_of_flatten _ member) _ found
  | array head size _ inductionHypothesis =>
    cases size with
    | unsized => simp [flatten] at found
    | sized count =>
      rw [flatten, List.mem_flatten] at found
      obtain ⟨row, copy, inside⟩ := found
      rw [List.eq_of_mem_replicate copy] at inside
      exact inductionHypothesis inside
  | struct head _ inductionHypothesis =>
    rw [flatten] at found
    exact isScalar_of_mem_flattenMembers
      (fun member here _ => inductionHypothesis member here) found
  | enum => simp [flatten] at found

/-! ## Words -/

/-- A sum or product that no word holds. -/
def Overflows (fault : Fault) : Prop :=
  fault = .addOverflow ∨ fault = .multiplyOverflow

/-- A type with more slots than a word counts. -/
def Huge (type : Ty) : Prop := wordLimit ≤ type.flatten.length

mutual

theorem overflows_of_slotCount : ∀ (type : Ty) {fault : Fault} (_ : type.slotCount = .error fault),
    Overflows fault ∧ ∃ part ∈ type.parts, part.Huge
  | .array head component (.sized count), fault, failed => by
    rw [slotCount] at failed
    rcases fault_of_bind failed with inside | ⟨each, inside, product⟩
    · obtain ⟨overflows, part, member, huge⟩ := overflows_of_slotCount component inside
      exact ⟨overflows, part, List.mem_cons_of_mem _ member, huge⟩
    · obtain ⟨rfl, large⟩ := large_of_multiplyWords product
      refine ⟨Or.inr rfl, _, mem_parts_self _, ?_⟩
      simpa [Huge, flatten, length_flatten component inside] using large
  | .struct head members, fault, failed => by
    rw [slotCount] at failed
    obtain ⟨overflows, huge⟩ := overflows_of_memberSlots members failed
    refine ⟨overflows, ?_⟩
    rcases huge with ⟨part, member, huge⟩ | huge
    · exact ⟨part, List.mem_cons_of_mem _ member, huge⟩
    · refine ⟨_, mem_parts_self _, ?_⟩
      rwa [Nat.zero_add] at huge
  | .array _ _ .unsized, _, failed | .scalar .., _, failed | .literal .., _, failed
  | .vector .., _, failed | .matrix .., _, failed | .void _, _, failed | .invalid _, _, failed
  | .handle _, _, failed | .enum _, _, failed | .generic .., _, failed => by
    simp [slotCount] at failed

theorem overflows_of_memberSlots : ∀ (members : List (MemberOf Ty)) {counted : Nat} {fault : Fault}
    (_ : memberSlots counted members = .error fault),
    Overflows fault ∧ ((∃ part ∈ memberParts members, part.Huge) ∨
      wordLimit ≤ counted + (flattenMembers members).length)
  | [], counted, fault, failed => by
    simp [memberSlots] at failed
  | ⟨_, _, type⟩ :: rest, counted, fault, failed => by
    rw [memberSlots] at failed
    rw [memberParts, flattenMembers, List.length_append]
    rcases fault_of_bind failed with here | ⟨count, here, more⟩
    · obtain ⟨overflows, part, member, huge⟩ := overflows_of_slotCount type here
      exact ⟨overflows, Or.inl ⟨part, List.mem_append_left _ member, huge⟩⟩
    · have width := length_flatten type here
      rcases fault_of_bind more with sum | ⟨next, added, later⟩
      · obtain ⟨rfl, large⟩ := large_of_addWords sum
        exact ⟨Or.inl rfl, Or.inr (by omega)⟩
      · have next_eq := eq_of_addWords added
        obtain ⟨overflows, huge⟩ := overflows_of_memberSlots rest later
        refine ⟨overflows, ?_⟩
        rcases huge with ⟨part, member, huge⟩ | huge
        · exact Or.inl ⟨part, List.mem_append_right _ member, huge⟩
        · exact Or.inr (by omega)

end

theorem memberSlots_lt {members : List Member} {counted total : Nat} (start : counted < wordLimit)
    (summed : memberSlots counted members = .ok total) : total < wordLimit := by
  induction members generalizing counted with
  | nil =>
    rw [memberSlots] at summed
    cases summed
    exact start
  | cons member rest inductionHypothesis =>
    rw [memberSlots] at summed
    obtain ⟨count, _, more⟩ := exists_of_bind_ok summed
    obtain ⟨next, added, later⟩ := exists_of_bind_ok more
    exact inductionHypothesis (lt_of_addWords added) later

end Ty

theorem Builtin.slotCount_lt :
    all.all (fun type => type.slotCount.toOption.all (· < wordLimit)) = true := by
  rfl

namespace Ty

theorem Standard.slotCount_lt {type : Ty} {count : Nat} (standard : type.Standard)
    (counted : type.slotCount = .ok count) : count < wordLimit := by
  have positive : 0 < wordLimit := by decide
  cases standard with
  | builtin member =>
    have small := List.all_eq_true.mp Builtin.slotCount_lt type member
    rw [counted] at small
    exact of_decide_eq_true small
  | array head size _ =>
    cases size with
    | unsized =>
      rw [slotCount.eq_def] at counted
      cases counted
      exact positive
    | sized number =>
      rw [slotCount] at counted
      obtain ⟨each, _, product⟩ := exists_of_bind_ok counted
      exact lt_of_multiplyWords product
  | struct head _ =>
    rw [slotCount] at counted
    exact memberSlots_lt positive counted
  | enum head =>
    rw [slotCount.eq_def] at counted
    cases counted
    exact positive

/-- The number of slots is the length of the row of scalars, wherever it is counted, and then the
type at each slot is the scalar there. It is not counted only where a type that this one is made of
has too many slots for a word, and that is a fault of arithmetic. -/
theorem slots_flattened {type : Ty} (standard : type.Standard) :
    (∀ count, type.slotCount = .ok count →
      count = type.flatten.length ∧ count < wordLimit ∧
        ∀ slot < count, ∃ scalar, type.slotType slot = .ok scalar ∧
          type.flatten[slot]? = some scalar ∧ scalar.isScalar = true) ∧
      ∀ fault, type.slotCount = .error fault →
        Overflows fault ∧ ∃ part ∈ type.parts, part.Huge := by
  refine ⟨fun count counted => ⟨?_, standard.slotCount_lt counted, fun slot below => ?_⟩,
    fun fault failed => overflows_of_slotCount type failed⟩
  · exact (length_flatten type counted).symm
  · obtain ⟨scalar, found, entry⟩ := slotType_eq_ok type counted below
    exact ⟨scalar, found, entry,
      standard.isScalar_of_mem_flatten (List.mem_of_getElem? entry)⟩

end Ty

def cornersType : Ty :=
  .array { id := 75, name := "float2[2]" } (Builtin.vectorOf Builtin.float 2 13) (.sized 2)

/-- `struct Sign { int[] notes; struct Blank {} blank; float2[2] corners; bool lit; };` -/
def signType : Ty :=
  .struct { id := 76, name := "Sign" }
    [⟨{}, "notes", .array { id := 77, name := "int[]" } Builtin.int .unsized⟩,
      ⟨{}, "blank", .struct { id := 78, name := "Blank" } []⟩, ⟨{}, "corners", cornersType⟩,
      ⟨{}, "lit", Builtin.bool⟩]

/-- `float4x4[2147483647][2147483647]` -/
def gridType : Ty :=
  rowOf 80 (rowOf 79 (Builtin.matrixOf Builtin.float 4 4 48))
where
  rowOf (id : Nat) (component : Ty) : Ty :=
    .array { id, name := Ty.arrayName component (.sized 2147483647) } component (.sized 2147483647)

/-- Members without slots take no place between the others. -/
theorem signType_flattened :
    signType.Standard ∧
      ((∀ count, signType.slotCount = .ok count →
        count = signType.flatten.length ∧ count < wordLimit ∧
          ∀ slot < count, ∃ scalar, signType.slotType slot = .ok scalar ∧
            signType.flatten[slot]? = some scalar ∧ scalar.isScalar = true) ∧
        ∀ fault, signType.slotCount = .error fault →
          Ty.Overflows fault ∧ ∃ part ∈ signType.parts, part.Huge) ∧
      signType.slotCount = .ok 5 ∧
      signType.flatten.map Ty.name = ["float", "float", "float", "float", "bool"] ∧
      gridType.slotCount = .error .multiplyOverflow := by
  have int : Builtin.int.Standard := .builtin (List.mem_of_getElem? (i := 5) rfl)
  have bool : Builtin.bool.Standard := .builtin (List.mem_of_getElem? (i := 12) rfl)
  have pair : (Builtin.vectorOf Builtin.float 2 13).Standard :=
    .builtin (List.mem_of_getElem? (i := 13) rfl)
  have standard : signType.Standard := by
    refine .struct _ (List.forall_mem_cons.mpr ⟨.array _ _ int, List.forall_mem_cons.mpr
      ⟨.struct _ (fun _ member => absurd member List.not_mem_nil), List.forall_mem_cons.mpr
        ⟨.array _ _ pair, List.forall_mem_singleton.mpr bool⟩⟩⟩)
  exact ⟨standard, Ty.slots_flattened standard, by rfl, by rfl, by rfl⟩

end Shading
