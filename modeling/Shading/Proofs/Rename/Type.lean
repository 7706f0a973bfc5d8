import Shading.Type.ResultType
import Shading.Type.Slots

/-!
New numbers for what a program made. Two decodings of one blob can draw different numbers and agree
in everything else, and that is said by giving both new numbers until they are equal. No query of a
type looks at its number, so that every one of them passes through a renaming. The types of the
language itself keep their numbers.
-/

namespace Shading

/-- New numbers for the types of programs, for the other symbols and for tables. -/
structure Renaming where
  types : Nat → Nat
  symbols : Nat → Nat
  tables : Nat → Nat

namespace Renaming

/-- The renaming that leaves every number as it is. -/
def same : Renaming := ⟨id, id, id⟩

end Renaming

/-- What has numbers of types, symbols or tables in it. -/
class Renamable (α : Type) where
  rename : Renaming → α → α
  rename_same : ∀ value, rename .same value = value

open Renamable (rename rename_same)

variable {α β : Type} {κ : Renaming}

/-- Two values that become equal when each is given its new numbers. -/
abbrev Alike [Renamable α] (κ κ' : Renaming) (value value' : α) : Prop :=
  rename κ value = rename κ' value'

/-- What does not look at numbers is the same of two values that are alike. -/
theorem Alike.kept [Renamable α] {κ κ' : Renaming} {value value' : α}
    (alike : Alike κ κ' value value') (query : α → β)
    (passes : ∀ κ value, query (rename κ value) = query value) :
    query value' = query value := by
  rw [← passes κ', ← alike, passes κ]

theorem eq_of_alike_same [Renamable α] {value value' : α}
    (alike : Alike .same .same value value') : value = value' := by
  rwa [Alike, rename_same, rename_same] at alike

instance [Renamable α] : Renamable (List α) where
  rename κ := List.map (rename κ)
  rename_same values := by
    rw [funext (Renamable.rename_same (α := α))]
    exact List.map_id values

instance [Renamable α] : Renamable (Option α) where
  rename κ := Option.map (rename κ)
  rename_same value? := by
    rw [funext (Renamable.rename_same (α := α))]
    exact congrFun Option.map_id value?

instance [Renamable α] : Renamable (Except Fault α) where
  rename κ := Except.map (rename κ)
  rename_same outcome := by
    rw [funext (Renamable.rename_same (α := α))]
    cases outcome <;> rfl

section Containers

variable [Renamable α] [Renamable β]

@[simp]
theorem rename_nil : rename κ ([] : List α) = [] := by
  rfl

@[simp]
theorem rename_cons (value : α) (rest : List α) :
    rename κ (value :: rest) = rename κ value :: rename κ rest := by
  rfl

theorem rename_list (values : List α) : rename κ values = values.map (rename κ) := by
  rfl

@[simp]
theorem length_rename (values : List α) : (rename κ values).length = values.length := by
  exact List.length_map _

@[simp]
theorem rename_append (first second : List α) :
    rename κ (first ++ second) = rename κ first ++ rename κ second := by
  exact List.map_append

@[simp]
theorem getElem?_rename (values : List α) (place : Nat) :
    (rename κ values)[place]? = rename κ values[place]? := by
  exact List.getElem?_map

@[simp]
theorem rename_some (value : α) : rename κ (some value) = some (rename κ value) := by
  rfl

@[simp]
theorem rename_ok (value : α) :
    rename κ (.ok value : Except Fault α) = .ok (rename κ value) := by
  rfl

@[simp]
theorem rename_pure (value : α) :
    rename κ (pure value : Except Fault α) = .ok (rename κ value) := by
  rfl

@[simp]
theorem rename_ensure_bind (holds : Bool) (fault : Fault) (next : Unit → Except Fault α) :
    rename κ (ensure holds fault >>= next) = ensure holds fault >>= fun _ => rename κ (next ()) := by
  cases holds <;> rfl

end Containers

/-! ## Types -/

namespace Ty

/-- The head of a type under its new number. -/
def Head.rename (κ : Renaming) (head : Head) : Head :=
  if head.builtin then head else { head with id := κ.types head.id }

mutual

def renamed (κ : Renaming) : Ty → Ty
  | void head => void (head.rename κ)
  | invalid head => invalid (head.rename κ)
  | handle head => handle (head.rename κ)
  | scalar head kind priority bits => scalar (head.rename κ) kind priority bits
  | literal head concrete priority => literal (head.rename κ) (concrete.renamed κ) priority
  | vector head component columns => vector (head.rename κ) (component.renamed κ) columns
  | matrix head component columns rows =>
    matrix (head.rename κ) (component.renamed κ) columns rows
  | array head component size => array (head.rename κ) (component.renamed κ) size
  | struct head members => struct (head.rename κ) (renamedMembers κ members)
  | enum head => enum (head.rename κ)
  | generic head choices => generic (head.rename κ) (renamedAll κ choices)

def renamedMembers (κ : Renaming) : List (MemberOf Ty) → List (MemberOf Ty)
  | [] => []
  | ⟨modifiers, name, type⟩ :: rest =>
    ⟨modifiers, name, type.renamed κ⟩ :: renamedMembers κ rest

def renamedAll (κ : Renaming) : List Ty → List Ty
  | [] => []
  | type :: rest => type.renamed κ :: renamedAll κ rest

end

end Ty

namespace Ty

theorem Head.rename_same (head : Head) : head.rename .same = head := by
  rw [Head.rename]
  split <;> rfl

mutual

theorem renamed_same (type : Ty) : type.renamed .same = type := by
  cases type with
  | literal head concrete priority =>
    rw [renamed, head.rename_same, renamed_same concrete]
  | vector head component columns =>
    rw [renamed, head.rename_same, renamed_same component]
  | matrix head component columns rows =>
    rw [renamed, head.rename_same, renamed_same component]
  | array head component size =>
    rw [renamed, head.rename_same, renamed_same component]
  | struct head members => rw [renamed, head.rename_same, renamedMembers_same members]
  | generic head choices => rw [renamed, head.rename_same, renamedAll_same choices]
  | _ => rw [renamed, Head.rename_same]

theorem renamedMembers_same (members : List (MemberOf Ty)) :
    renamedMembers .same members = members := by
  cases members with
  | nil => rfl
  | cons member rest =>
    obtain ⟨modifiers, name, type⟩ := member
    rw [renamedMembers, renamed_same type, renamedMembers_same rest]

theorem renamedAll_same (types : List Ty) : renamedAll .same types = types := by
  cases types with
  | nil => rfl
  | cons type rest => rw [renamedAll, renamed_same type, renamedAll_same rest]

end

theorem Head.rename_congr {κ' : Renaming} (same : κ.types = κ'.types) (head : Head) :
    head.rename κ = head.rename κ' := by
  rw [Head.rename, Head.rename, same]

mutual

/-- In a type only the numbers of types count. -/
theorem renamed_congr {κ' : Renaming} (same : κ.types = κ'.types) (type : Ty) :
    type.renamed κ = type.renamed κ' := by
  cases type with
  | literal head concrete priority =>
    rw [renamed, renamed, Head.rename_congr same, renamed_congr same concrete]
  | vector head component columns =>
    rw [renamed, renamed, Head.rename_congr same, renamed_congr same component]
  | matrix head component columns rows =>
    rw [renamed, renamed, Head.rename_congr same, renamed_congr same component]
  | array head component size =>
    rw [renamed, renamed, Head.rename_congr same, renamed_congr same component]
  | struct head members =>
    rw [renamed, renamed, Head.rename_congr same, renamedMembers_congr same members]
  | generic head choices =>
    rw [renamed, renamed, Head.rename_congr same, renamedAll_congr same choices]
  | _ => rw [renamed, renamed, Head.rename_congr same]

theorem renamedMembers_congr {κ' : Renaming} (same : κ.types = κ'.types)
    (members : List (MemberOf Ty)) : renamedMembers κ members = renamedMembers κ' members := by
  cases members with
  | nil => rfl
  | cons member rest =>
    obtain ⟨modifiers, name, type⟩ := member
    rw [renamedMembers, renamedMembers, renamed_congr same type, renamedMembers_congr same rest]

theorem renamedAll_congr {κ' : Renaming} (same : κ.types = κ'.types) (types : List Ty) :
    renamedAll κ types = renamedAll κ' types := by
  cases types with
  | nil => rfl
  | cons type rest =>
    rw [renamedAll, renamedAll, renamed_congr same type, renamedAll_congr same rest]

end

end Ty

instance : Renamable Ty := ⟨Ty.renamed, Ty.renamed_same⟩

instance [Renamable α] : Renamable (MemberOf α) where
  rename κ member := { member with type := rename κ member.type }
  rename_same member := by rw [rename_same]

namespace Ty

variable (head : Head) (type left right : Ty)

theorem renamedMembers_eq (members : List Member) :
    renamedMembers κ members = rename κ members := by
  induction members with
  | nil => rfl
  | cons member rest inductionHypothesis => rw [renamedMembers, inductionHypothesis]; rfl

theorem renamedAll_eq (types : List Ty) : renamedAll κ types = rename κ types := by
  induction types with
  | nil => rfl
  | cons type rest inductionHypothesis => rw [renamedAll, inductionHypothesis]; rfl

/-! ## What a type is -/

@[simp]
theorem Head.name_rename : (head.rename κ).name = head.name := by
  rw [Head.rename]
  split <;> rfl

@[simp]
theorem head_rename : (rename κ type).head = type.head.rename κ := by
  cases type <;> rfl

@[simp]
theorem name_rename : (rename κ type).name = type.name := by
  rw [name, head_rename, Head.name_rename, name]

@[simp]
theorem typeClass_rename : (rename κ type).typeClass = type.typeClass := by
  cases type <;> rfl

@[simp]
theorem isScalar_rename : (rename κ type).isScalar = type.isScalar := by
  cases type <;> rfl

@[simp]
theorem isLiteral_rename : (rename κ type).isLiteral = type.isLiteral := by
  cases type <;> rfl

@[simp]
theorem isVector_rename : (rename κ type).isVector = type.isVector := by
  cases type <;> rfl

@[simp]
theorem isMatrix_rename : (rename κ type).isMatrix = type.isMatrix := by
  cases type <;> rfl

@[simp]
theorem isStruct_rename : (rename κ type).isStruct = type.isStruct := by
  cases type <;> rfl

@[simp]
theorem isEnum_rename : (rename κ type).isEnum = type.isEnum := by
  cases type <;> rfl

@[simp]
theorem concrete_rename : (rename κ type).concrete = rename κ type.concrete := by
  cases type <;> rfl

@[simp]
theorem displayName_rename : (rename κ type).displayName = type.displayName := by
  rw [displayName, concrete_rename, name_rename, displayName]

@[simp]
theorem component_rename : (rename κ type).component = rename κ type.component := by
  cases type <;> rfl

@[simp]
theorem columns_rename : (rename κ type).columns = type.columns := by
  cases type <;> rfl

@[simp]
theorem rows_rename : (rename κ type).rows = type.rows := by
  cases type <;> rfl

@[simp]
theorem arraySize?_rename : (rename κ type).arraySize? = type.arraySize? := by
  cases type <;> rfl

@[simp]
theorem members_rename : (rename κ type).members = rename κ type.members := by
  cases type with
  | struct head members => exact renamedMembers_eq members
  | _ => rfl

@[simp]
theorem choices_rename : (rename κ type).choices = rename κ type.choices := by
  cases type with
  | generic head choices => exact renamedAll_eq choices
  | _ => rfl

@[simp]
theorem priority_rename : (rename κ type).priority = type.priority := by
  cases type <;> rfl

/-- Only the types of literals take their family from another type. -/
@[simp]
theorem numberKind_rename : (rename κ type).numberKind = type.numberKind := by
  induction type using numberKind.induct with
  | case1 head kind priority bits => rfl
  | case2 head concrete priority inductionHypothesis => exact inductionHypothesis
  | case3 type noScalar noLiteral =>
    cases type with
    | scalar head kind priority bits => exact absurd rfl (noScalar head kind priority bits)
    | literal head concrete priority => exact absurd rfl (noLiteral head concrete priority)
    | _ => rfl

@[simp]
theorem isNumber_rename : (rename κ type).isNumber = type.isNumber := by
  rw [isNumber, numberKind_rename, isNumber]

@[simp]
theorem isInteger_rename : (rename κ type).isInteger = type.isInteger := by
  rw [isInteger, numberKind_rename, isInteger]

@[simp]
theorem isFloat_rename : (rename κ type).isFloat = type.isFloat := by
  rw [isFloat, numberKind_rename, isFloat]

@[simp]
theorem isBoolean_rename : (rename κ type).isBoolean = type.isBoolean := by
  rw [isBoolean, numberKind_rename, isBoolean]

@[simp]
theorem equal_rename : (rename κ left == rename κ right) = (left == right) := by
  show equal (rename κ left) (rename κ right) = equal left right
  simp only [equal, name_rename, typeClass_rename, columns_rename, rows_rename, arraySize?_rename]

@[simp]
theorem arrayName_rename (size : ArraySize) :
    (rename κ type).arrayName size = type.arrayName size := by
  rw [arrayName, name_rename, arrayName]

/-! ## Slots -/

mutual

theorem slotCount_renamed (type : Ty) : (type.renamed κ).slotCount = type.slotCount := by
  cases type with
  | array head component size =>
    cases size with
    | sized count => simp only [renamed, slotCount, slotCount_renamed component]
    | unsized => rfl
  | struct head members => simp only [renamed, slotCount, memberSlots_renamed members 0]
  | _ => rfl

theorem memberSlots_renamed (members : List (MemberOf Ty)) (counted : Nat) :
    memberSlots counted (renamedMembers κ members) = memberSlots counted members := by
  cases members with
  | nil => rfl
  | cons member rest =>
    obtain ⟨modifiers, name, type⟩ := member
    simp only [renamedMembers, memberSlots, slotCount_renamed type, memberSlots_renamed rest]

end

@[simp]
theorem slotCount_rename : (rename κ type).slotCount = type.slotCount := by
  exact slotCount_renamed type

/-! ## Conversions -/

theorem numberCost_rename : (rename κ left).numberCost (rename κ right) = left.numberCost right := by
  simp only [numberCost, isLiteral_rename, isInteger_rename, numberKind_rename, priority_rename]

theorem findIdx?_rename (types : List Ty) (target : Ty) :
    (rename κ types).findIdx? (· == rename κ target) = types.findIdx? (· == target) := by
  rw [rename_list, List.findIdx?_map]
  congr 1
  funext type
  exact equal_rename type target

/-- Vectors and matrices convert like their components, and so the recursion is on the source. -/
theorem costTo_renamed (source target : Ty) :
    (source.renamed κ).costTo (rename κ target) = source.costTo target := by
  have plain (noVector : source.isVector = false) (noMatrix : source.isMatrix = false) :
      (rename κ source).costTo (rename κ target) = source.costTo target := by
    rw [costTo_plain _ noVector noMatrix,
      costTo_plain _ (by rwa [isVector_rename]) (by rwa [isMatrix_rename])]
    simp only [equal_rename, isNumber_rename, numberCost_rename, choices_rename, findIdx?_rename]
  have equal := equal_rename (κ := κ) source target
  cases source with
  | vector head component columns =>
    have inner := costTo_renamed component target.component
    change (vector _ _ _ == rename κ target) = _ at equal
    simp only [renamed, costTo, equal, isVector_rename, columns_rename, component_rename, inner]
  | matrix head component columns rows =>
    have inner := costTo_renamed component target.component
    change (matrix _ _ _ _ == rename κ target) = _ at equal
    simp only [renamed, costTo, equal, columns_rename, rows_rename, component_rename, inner]
  | _ => exact plain rfl rfl

@[simp]
theorem costTo_rename : (rename κ left).costTo (rename κ right) = left.costTo right := by
  exact costTo_renamed left right

@[simp]
theorem convertsTo_rename (allowNarrowing : Bool) :
    (rename κ left).convertsTo (rename κ right) allowNarrowing =
      left.convertsTo right allowNarrowing := by
  rw [convertsTo, costTo_rename, convertsTo]

end Ty

/-! ## The types of the language -/

namespace Builtin

theorem rename_valueTypes : rename κ valueTypes = valueTypes := by
  rfl

theorem rename_of_mem_valueTypes {type : Ty} (member : type ∈ valueTypes) :
    rename κ type = type := by
  have same : valueTypes.map (rename κ) = valueTypes.map id := by
    rw [List.map_id]
    exact rename_valueTypes
  exact List.map_inj_left.mp same type member

/-- A generic type stands for value types, which are fixed. -/
theorem rename_genericOf (name : String) (choices : List String) (id : Nat) :
    rename κ (genericOf name choices id) = genericOf name choices id := by
  have fixed : ∀ type ∈ choices.filterMap fun choice => valueTypes.find? (·.name == choice),
      rename κ type = type := by
    intro type member
    obtain ⟨choice, _, found⟩ := List.mem_filterMap.mp member
    exact rename_of_mem_valueTypes (List.mem_of_find?_eq_some found)
  show Ty.generic _ (Ty.renamedAll κ _) = _
  rw [Ty.renamedAll_eq, rename_list, List.map_congr_left fixed, List.map_id']
  rfl

theorem rename_numbered {makers : List (Nat → Ty)}
    (fixed : ∀ make ∈ makers, ∀ id, rename κ (make id) = make id) {first : Nat} {type : Ty}
    (member : type ∈ numbered first makers) : rename κ type = type := by
  obtain ⟨⟨make, id⟩, isMaker, rfl⟩ := List.mem_map.mp member
  exact fixed make (List.fst_mem_of_mem_zipIdx isMaker) id

theorem rename_of_mem_all {type : Ty} (member : type ∈ all) : rename κ type = type := by
  rcases List.mem_append.mp member with inRest | isHandle
  · rcases List.mem_append.mp inRest with isValue | isGeneric
    · exact rename_of_mem_valueTypes isValue
    · refine rename_numbered ?_ isGeneric
      simp [rename_genericOf]
  · refine rename_numbered ?_ isHandle
    intro make isMaker id
    obtain ⟨name, _, rfl⟩ := List.mem_map.mp isMaker
    rfl

theorem rename_compound (base : Ty) (columns rows : Nat) :
    compound (rename κ base) columns rows = rename κ (compound base columns rows) := by
  have names : compoundName (rename κ base) columns rows = compoundName base columns rows := by
    simp only [compoundName, Ty.name_rename, Ty.concrete_rename]
  rw [compound, compound, rename_ensure_bind, Ty.isScalar_rename, Ty.name_rename, names]
  congr 1
  funext _
  cases found : find? (compoundName base columns rows) with
  | none => rfl
  | some type =>
    rw [rename_ok, rename_of_mem_all (List.mem_of_find?_eq_some found)]

end Builtin

/-! ## The types of operations -/

theorem rename_cheaperSide? (left right : Ty) (allowNarrowing : Bool) :
    cheaperSide? (rename κ left) (rename κ right) allowNarrowing =
      rename κ (cheaperSide? left right allowNarrowing) := by
  simp only [cheaperSide?, Ty.costTo_rename]
  split
  · split <;> rfl
  · split <;> rfl

theorem rename_productType? (left right : Ty) (columns rows : Nat) (allowNarrowing : Bool) :
    productType? (rename κ left) (rename κ right) columns rows allowNarrowing =
      rename κ (productType? left right columns rows allowNarrowing) := by
  simp only [productType?, Ty.component_rename, rename_cheaperSide?]
  cases cheaperSide? left.component right.component allowNarrowing with
  | none => rfl
  | some component =>
    simp only [rename_some, Builtin.rename_compound]
    cases Builtin.compound component columns rows <;> rfl

theorem rename_componentwiseType? (left right : Ty) (allowNarrowing : Bool) :
    componentwiseType? (rename κ left) (rename κ right) allowNarrowing =
      rename κ (componentwiseType? left right allowNarrowing) := by
  simp only [componentwiseType?, Ty.isScalar_rename, Ty.component_rename, Ty.convertsTo_rename,
    Ty.columns_rename, Ty.rows_rename, rename_cheaperSide?]
  repeat' split
  all_goals rfl

namespace Operator

theorem rename_arithmeticType? (op : Operator) (left right : Ty) (allowNarrowing : Bool) :
    op.arithmeticType? (rename κ left) (rename κ right) allowNarrowing =
      rename κ (op.arithmeticType? left right allowNarrowing) := by
  have takes (type : Ty) : op.takes (rename κ type) = op.takes type := by
    simp only [Operator.takes, Ty.isShaped, Ty.isScalar_rename, Ty.isVector_rename,
      Ty.isMatrix_rename, Ty.component_rename, Ty.isInteger_rename, Ty.isNumber_rename]
  have shape : productShape? (rename κ left) (rename κ right) = productShape? left right := by
    simp only [productShape?, Ty.isMatrix_rename, Ty.isVector_rename, Ty.columns_rename,
      Ty.rows_rename]
  simp only [arithmeticType?, takes, shape, rename_productType?, rename_componentwiseType?]
  repeat' split
  all_goals rfl

theorem rename_valueType? (op : Operator) (left right : Ty) (allowNarrowing : Bool) :
    op.valueType? (rename κ left) (rename κ right) allowNarrowing =
      rename κ (op.valueType? left right allowNarrowing) := by
  have toBool (type : Ty) : (rename κ type).convertsTo Builtin.bool allowNarrowing =
      type.convertsTo Builtin.bool allowNarrowing := Ty.convertsTo_rename type Builtin.bool _
  simp only [valueType?, Ty.convertsTo_rename, toBool, Ty.isNumber_rename,
    rename_arithmeticType?]
  repeat' split
  all_goals rfl

theorem rename_resultType? (op : Operator) (left right : Ty) (allowNarrowing : Bool) :
    op.resultType? (rename κ left) (rename κ right) allowNarrowing =
      rename κ (op.resultType? left right allowNarrowing) := by
  unfold resultType?
  cases op.applied? with
  | none =>
    dsimp only
    split
    · rfl
    · rw [Ty.convertsTo_rename]
      split <;> rfl
    · exact rename_valueType? op left right allowNarrowing
  | some applied =>
    dsimp only
    rw [rename_valueType?]
    cases applied.valueType? left right allowNarrowing with
    | error fault => rfl
    | ok type? =>
      cases type? with
      | none => rfl
      | some type =>
        show Except.ok (if (rename κ type).convertsTo (rename κ left) allowNarrowing then _ else _)
          = _
        rw [Ty.convertsTo_rename]
        show _ = rename κ (Except.ok (if type.convertsTo left allowNarrowing then _ else _))
        split <;> rfl

end Operator

end Shading
