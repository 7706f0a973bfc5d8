import Mathlib.Data.List.Forall2
import Mathlib.Data.List.Nodup
import Shading.Proofs.Expr.Conversion
import Shading.Proofs.Type.Arithmetic
import Shading.Proofs.Type.Flatten

/-!
What equal types have in common. Equality looks at the name, the class and a few numbers of a type,
but not at the elements of an array or the members of a struct. That is enough for conversions,
which look no further either. The slots of two types agree if the types are equal all the way down,
which is `Ty.Alike`. Main statement: `Ty.equal_interchangeable`; `parcels_differ` shows two structs
that are equal only on the surface.
-/

namespace Shading

/-- Two lists look the same in two views if their entries do, place by place. -/
theorem map_eq_map_iff_zip {α β γ : Type} {view : α → γ} {view' : β → γ} {items : List α}
    {items' : List β} : items.map view = items'.map view' ↔
      items.length = items'.length ∧
        ∀ item item', (item, item') ∈ items.zip items' → view item = view' item' := by
  rw [← List.forall₂_eq_eq_eq, List.forall₂_map_left_iff, List.forall₂_map_right_iff,
    List.forall₂_iff_zip]

theorem Builtin.nodup_names : (all.map Ty.name).Nodup := by
  decide +kernel

namespace Ty

variable {left right third : Ty}

/-! ## Equality -/

theorem beq_iff : (left == right) = true ↔
    left.name = right.name ∧ left.typeClass = right.typeClass ∧ left.columns = right.columns ∧
      left.rows = right.rows ∧ left.arraySize? = right.arraySize? := by
  change left.equal right = true ↔ _
  simp only [equal, Bool.and_eq_true, beq_iff_eq, and_assoc]

/-- Equal types are equal to the same types. -/
theorem beq_congr_left (same : (left == right) = true) : (left == third) = (right == third) := by
  obtain ⟨name, typeClass, columns, rows, size⟩ := beq_iff.mp same
  change left.equal third = right.equal third
  rw [equal, equal, name, typeClass, columns, rows, size]

theorem beq_congr_right (same : (left == right) = true) : (third == left) = (third == right) := by
  obtain ⟨name, typeClass, columns, rows, size⟩ := beq_iff.mp same
  change third.equal left = third.equal right
  rw [equal, equal, name, typeClass, columns, rows, size]

/-- The types that programs make: arrays, structs and enums. -/
def isMade (type : Ty) : Bool := type.isArray || type.isStruct || type.isEnum

theorem not_isMade_of_builtin : Builtin.all.all (!·.isMade) = true := by
  rfl

theorem isMade_congr (same : (left == right) = true) : left.isMade = right.isMade := by
  have typeClass := (beq_iff.mp same).2.1
  cases left <;> cases right <;> first | rfl | cases typeClass

theorem isScalar_congr (same : (left == right) = true) : left.isScalar = right.isScalar := by
  have typeClass := (beq_iff.mp same).2.1
  cases left <;> cases right <;> first | rfl | cases typeClass

theorem Standard.mem_all (standard : left.Standard) (found : left.isMade = false) :
    left ∈ Builtin.all := by
  cases standard with
  | builtin member => exact member
  | array | struct | enum => cases found

theorem isMade_of_mem_all (member : left ∈ Builtin.all) : left.isMade = false :=
  (Bool.not_eq_eq_eq_not ..).mp (List.all_eq_true.mp not_isMade_of_builtin left member)

/-- Of the types that programs do not make, equal ones are the same. -/
theorem Standard.eq_of_beq (leftStandard : left.Standard) (rightStandard : right.Standard)
    (same : (left == right) = true) (found : left.isMade = false) : left = right := by
  have leftMember := leftStandard.mem_all found
  have rightMember := rightStandard.mem_all (isMade_congr same ▸ found)
  exact List.inj_on_of_nodup_map Builtin.nodup_names leftMember rightMember (beq_iff.mp same).1

/-! ## Conversions -/

/-- What a program makes converts to types equal to it, and to no other. -/
theorem costTo_of_isMade (made : left.isMade = true) :
    left.costTo third = if left == third then .free else .impossible := by
  cases left with
  | array | struct | enum => exact costTo_plain third rfl rfl
  | _ => cases made

/-- To what a program makes, only equal types convert, and generic ones with an equal choice. -/
theorem costTo_isMade (standard : third.Standard) (made : left.isMade = true) :
    third.costTo left =
      if third == left then .free
      else
        match third.choices.findIdx? (· == left) with
        | some index => .normal (UInt32.ofNat index + 1)
        | none => .impossible := by
  have noVector : left.isVector = false := by
    cases left with
    | vector => cases made
    | _ => rfl
  have noColumns : left.columns = 0 := by
    cases left with
    | array | struct | enum => rfl
    | _ => cases made
  have noNumber : left.isNumber = false := by
    cases left with
    | array | struct | enum => rfl
    | _ => cases made
  have onward (cost other : Cost) :
      (if third.isNumber && left.isNumber then cost else other) = other := by
    rw [noNumber, Bool.and_false, if_neg Bool.false_ne_true]
  cases third with
  | vector =>
    rw [costTo, noVector, if_neg Bool.false_ne_true]
    rfl
  | matrix head component columns rows =>
    have shape : columns ∈ [1, 2, 3, 4] := (standard.shape_of_compound rfl).1
    have apart : ¬(columns = left.columns ∧ rows = left.rows) := by
      rintro ⟨rfl, -⟩
      rw [noColumns] at shape
      exact absurd shape (by decide)
    rw [costTo, if_neg apart]
    rfl
  | _ => exact (costTo_plain left rfl rfl).trans (congrArg (ite _ .free) (onward _ _))

/-- Equal types convert alike. -/
theorem costTo_congr (leftStandard : left.Standard) (rightStandard : right.Standard)
    (thirdStandard : third.Standard) (same : (left == right) = true) :
    left.costTo third = right.costTo third ∧ third.costTo left = third.costTo right := by
  by_cases found : left.isMade = false
  · rw [leftStandard.eq_of_beq rightStandard same found]
    exact ⟨rfl, rfl⟩
  · have leftMade : left.isMade = true := eq_true_of_ne_false found
    have rightMade : right.isMade = true := isMade_congr same ▸ leftMade
    constructor
    · rw [costTo_of_isMade leftMade, costTo_of_isMade rightMade, beq_congr_left same]
    · have choice : (fun type => type == left) = fun type => type == right :=
        funext fun type => beq_congr_right same
      rw [costTo_isMade thirdStandard leftMade, costTo_isMade thirdStandard rightMade,
        beq_congr_right same, choice]

/-! ## Equality all the way down -/

/-- Equality that goes on into elements and members: at each place of two types, both have types of
one name and shape. -/
inductive Alike : Ty → Ty → Prop where
  | builtin {type : Ty} (member : type ∈ Builtin.all) : Alike type type
  | array {head head' : Head} {component component' : Ty} (size : ArraySize)
      (named : head.name = head'.name) (elements : Alike component component') :
      Alike (array head component size) (array head' component' size)
  | struct {head head' : Head} {members members' : List Member} (named : head.name = head'.name)
      (count : members.length = members'.length)
      (each : ∀ member member', (member, member') ∈ members.zip members' →
        Alike member.type member'.type) : Alike (struct head members) (struct head' members')
  | enum {head head' : Head} (named : head.name = head'.name) : Alike (enum head) (enum head')

theorem Alike.beq (alike : left.Alike right) : (left == right) = true := by
  cases alike with
  | builtin => exact beq_self _
  | array _ named | struct named | enum named => exact beq_iff.mpr ⟨named, rfl, rfl, rfl, rfl⟩

/-- Equal types are alike but for what elements and members add. -/
theorem Standard.alike_of_beq (leftStandard : left.Standard) (rightStandard : right.Standard)
    (same : (left == right) = true) (noArray : left.isArray = false)
    (noStruct : left.isStruct = false) : left.Alike right := by
  cases leftStandard with
  | builtin member =>
    obtain rfl := (builtin member).eq_of_beq rightStandard same (isMade_of_mem_all member)
    exact .builtin member
  | array => cases noArray
  | struct => cases noStruct
  | enum =>
    obtain ⟨named, typeClass, -⟩ := beq_iff.mp same
    cases right with
    | enum => exact .enum named
    | _ => cases typeClass

/-! ## Slots -/

section Members

variable {members members' : List Member}

theorem memberSlots_congr {counted : Nat}
    (same : members.map (fun member => member.type.slotCount) =
      members'.map fun member => member.type.slotCount) :
    memberSlots counted members = memberSlots counted members' := by
  induction members generalizing members' counted with
  | nil =>
    obtain rfl := List.map_eq_nil_iff.mp same.symm
    rfl
  | cons member rest inductionHypothesis =>
    cases members' with
    | nil => cases same
    | cons member' rest' =>
      obtain ⟨here, later⟩ : member.type.slotCount = member'.type.slotCount ∧ _ :=
        List.cons.inj same
      rw [memberSlots, memberSlots, here]
      simp only [inductionHypothesis later]

theorem flattenMembers_eq_flatMap :
    flattenMembers members = members.flatMap fun member => member.type.flatten := by
  induction members with
  | nil => rfl
  | cons member rest inductionHypothesis =>
    rw [flattenMembers, inductionHypothesis, List.flatMap_cons]

theorem anyContainsArray_eq_any :
    anyContainsArray members = members.any fun member => member.type.containsArray := by
  induction members with
  | nil => rfl
  | cons member rest inductionHypothesis =>
    rw [anyContainsArray, inductionHypothesis, List.any_cons]

end Members

theorem Alike.slotCount_eq (alike : left.Alike right) : left.slotCount = right.slotCount := by
  induction alike with
  | builtin => rfl
  | array size _ _ inductionHypothesis =>
    cases size with
    | sized count => rw [slotCount, slotCount, inductionHypothesis]
    | unsized => simp only [slotCount]
  | struct _ count _ inductionHypothesis =>
    rw [slotCount, slotCount]
    exact memberSlots_congr (map_eq_map_iff_zip.mpr ⟨count, inductionHypothesis⟩)
  | enum => simp only [slotCount]

/-- Types that are alike have scalars of the same names in their rows. -/
theorem Alike.names_eq (alike : left.Alike right) :
    left.flatten.map name = right.flatten.map name := by
  induction alike with
  | builtin => rfl
  | array size _ _ inductionHypothesis =>
    cases size with
    | sized count =>
      simp only [flatten, List.map_flatten, List.map_replicate, inductionHypothesis]
    | unsized => simp only [flatten]
  | struct _ count _ inductionHypothesis =>
    rw [flatten, flatten, flattenMembers_eq_flatMap, flattenMembers_eq_flatMap, List.map_flatMap,
      List.map_flatMap, List.flatMap_def, List.flatMap_def]
    exact congrArg List.flatten (map_eq_map_iff_zip.mpr ⟨count, inductionHypothesis⟩)
  | enum => simp only [flatten]

theorem Alike.containsArray_eq (alike : left.Alike right) :
    left.containsArray = right.containsArray := by
  induction alike with
  | builtin => rfl
  | array => rw [containsArray, containsArray]
  | struct _ count _ inductionHypothesis =>
    have views := map_eq_map_iff_zip.mpr ⟨count, inductionHypothesis⟩
    rw [containsArray, containsArray, anyContainsArray_eq_any, anyContainsArray_eq_any]
    have found := congrArg (fun flags : List Bool => flags.any fun flag => flag) views
    simpa only [List.any_map, Function.comp_def] using found
  | enum => simp only [containsArray]

/-- Two types lay their values out alike: as many slots, or too many to count in both, scalars of
the same name at each of them, and arrays in both or in neither. -/
structure SameLayout (left right : Ty) : Prop where
  slotCount_eq : left.slotCount = right.slotCount
  names_eq : ∀ count, left.slotCount = .ok count → ∀ slot < count,
    ∃ scalar scalar', left.slotType slot = .ok scalar ∧ right.slotType slot = .ok scalar' ∧
      scalar.name = scalar'.name
  containsArray_eq : left.containsArray = right.containsArray

theorem Alike.sameLayout (alike : left.Alike right) : left.SameLayout right where
  slotCount_eq := alike.slotCount_eq
  names_eq := by
    intro count counted slot below
    obtain ⟨scalar, found, entry⟩ := slotType_eq_ok left counted below
    obtain ⟨scalar', found', entry'⟩ :=
      slotType_eq_ok right (alike.slotCount_eq ▸ counted) below
    have names := congrArg (·[slot]?) alike.names_eq
    simp only [List.getElem?_map, entry, entry', Option.map_some] at names
    exact ⟨scalar, scalar', found, found', Option.some.inj names⟩
  containsArray_eq := alike.containsArray_eq

/-- Equal types always convert alike, from and to every type. They lay their values out alike if
they are equal all the way down, as they are unless they are arrays or structs; equality passes over
the elements of arrays and the members of structs. -/
theorem equal_interchangeable (leftStandard : left.Standard) (rightStandard : right.Standard)
    (same : (left == right) = true) :
    (∀ third : Ty, third.Standard →
        left.costTo third = right.costTo third ∧ third.costTo left = third.costTo right) ∧
      (left.Alike right → left.SameLayout right) ∧
      (left.isArray = false → left.isStruct = false → left.Alike right) :=
  ⟨fun _ thirdStandard => costTo_congr leftStandard rightStandard thirdStandard same,
    Alike.sameLayout, leftStandard.alike_of_beq rightStandard same⟩

end Ty

/-- `struct Parcel { int[2] sides; };` -/
def boxParcel : Ty :=
  .struct { id := 76, name := "Parcel" }
    [⟨{}, "sides", .array { id := 75, name := "int[2]" } Builtin.int (.sized 2)⟩]

/-- `struct Parcel { float weight; };` -/
def letterParcel : Ty := .struct { id := 77, name := "Parcel" } [⟨{}, "weight", Builtin.float⟩]

/-- Two structs of one name are equal, whatever their members are. -/
theorem parcels_differ :
    boxParcel.Standard ∧ letterParcel.Standard ∧ (boxParcel == letterParcel) = true ∧
      boxParcel.slotCount = .ok 2 ∧ letterParcel.slotCount = .ok 1 ∧
      (∃ scalar scalar', boxParcel.slotType 0 = .ok scalar ∧ letterParcel.slotType 0 = .ok scalar' ∧
        scalar.name = "int" ∧ scalar'.name = "float") ∧
      boxParcel.containsArray = true ∧ letterParcel.containsArray = false := by
  have int : Builtin.int.Standard := .builtin (List.mem_of_getElem? (i := 5) rfl)
  have float : Builtin.float.Standard := .builtin (List.mem_of_getElem? (i := 2) rfl)
  refine ⟨.struct _ (List.forall_mem_singleton.mpr (.array _ _ int)),
    .struct _ (List.forall_mem_singleton.mpr float), by rfl, by rfl, by rfl, ?_, by rfl, by rfl⟩
  exact ⟨Builtin.int, Builtin.float, by rfl, by rfl, by rfl, by rfl⟩

/-- The same as `boxParcel`, as it is copied to another table. -/
def boxParcelCopy : Ty :=
  .struct { id := 79, name := "Parcel" }
    [⟨{}, "sides", .array { id := 78, name := "int[2]" } Builtin.int (.sized 2)⟩]

theorem boxParcelCopy_interchangeable :
    boxParcel.Standard ∧ boxParcelCopy.Standard ∧ (boxParcel == boxParcelCopy) = true ∧
      (∀ third : Ty, third.Standard → boxParcel.costTo third = boxParcelCopy.costTo third ∧
        third.costTo boxParcel = third.costTo boxParcelCopy) ∧
      boxParcel.SameLayout boxParcelCopy := by
  have intMember : Builtin.int ∈ Builtin.all := List.mem_of_getElem? (i := 5) rfl
  have standard : boxParcel.Standard :=
    .struct _ (List.forall_mem_singleton.mpr (.array _ _ (.builtin intMember)))
  have copyStandard : boxParcelCopy.Standard :=
    .struct _ (List.forall_mem_singleton.mpr (.array _ _ (.builtin intMember)))
  have same : (boxParcel == boxParcelCopy) = true := by rfl
  have alike : boxParcel.Alike boxParcelCopy := by
    refine .struct rfl rfl ?_
    rintro _ _ (_ | ⟨_, ⟨⟩⟩)
    exact .array _ rfl (.builtin intMember)
  obtain ⟨costs, layout, -⟩ := Ty.equal_interchangeable standard copyStandard same
  exact ⟨standard, copyStandard, same, costs, layout alike⟩

end Shading
