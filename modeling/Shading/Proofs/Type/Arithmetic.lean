import Shading.Proofs.Type.Standard
import Shading.Type.ResultType

/-!
The types of arithmetic. An operation works component by component, on operands of one shape or with
a scalar on one side, or it is a product of linear algebra. There are matrices over the float family
only, so that products never give integers. Main statement:
`Operator.arithmetic_shapes`.
-/

namespace Shading

namespace Operator

variable {op : Operator} {left right type : Ty} {allowNarrowing : Bool}

theorem resultType?_of_isArithmetic (arithmetic : op.isArithmetic = true) :
    op.resultType? left right allowNarrowing = op.arithmeticType? left right allowNarrowing := by
  cases op with
  | plus | minus | star | slash | percent | shiftLeft | shiftRight | bitAnd | bitOr | bitXor => rfl
  | _ => cases arithmetic

/-- The two ways of arithmetic. -/
theorem arithmeticType?_cases
    (made : op.arithmeticType? left right allowNarrowing = .ok (some type)) :
    (op.takes left && op.takes right) = true ∧
      (componentwiseType? left right allowNarrowing = some type ∨
        ∃ columns rows, productShape? left right = some (columns, rows, true) ∧
          productType? left right columns rows allowNarrowing = .ok (some type)) := by
  rw [arithmeticType?] at made
  split at made
  · cases made
  · rename_i refused
    refine ⟨by simpa using refused, ?_⟩
    split at made
    · rename_i columns rows shaped
      refine Or.inr ⟨columns, rows, ?_, made⟩
      split at shaped
      · exact shaped
      · cases shaped
    · cases made
    · exact Or.inl (Except.ok.inj made)

end Operator

/-! ## Component by component -/

section Componentwise

variable {left right type : Ty} {allowNarrowing : Bool}

theorem eq_or_eq_of_cheaperSide? (chosen : cheaperSide? left right allowNarrowing = some type) :
    type = left ∨ type = right := by
  simp only [cheaperSide?] at chosen
  split at chosen
  · split at chosen
    · exact Or.inr (Option.some.inj chosen).symm
    · exact Or.inl (Option.some.inj chosen).symm
  · split at chosen
    · exact Or.inr (Option.some.inj chosen).symm
    · cases chosen

/-- An operand of a shape, or a scalar that is spread over it. -/
def Ty.SpreadsTo (operand type : Ty) : Prop :=
  operand.isScalar = true ∨ (operand.columns = type.columns ∧ operand.rows = type.rows)

theorem Ty.SpreadsTo.refl (type : Ty) : type.SpreadsTo type := Or.inr ⟨rfl, rfl⟩

/-- The type of one side is the type of the operation, and both sides spread to it. -/
theorem componentwiseType?_cases (made : componentwiseType? left right allowNarrowing = some type) :
    (type = left ∨ type = right) ∧ left.SpreadsTo type ∧ right.SpreadsTo type := by
  rw [componentwiseType?] at made
  split at made
  · rename_i spread
    have scalar := (Bool.and_eq_true_iff.mp spread).1
    split at made
    · cases made
      exact ⟨Or.inr rfl, Or.inl scalar, .refl right⟩
    · cases made
  · split at made
    · rename_i spread
      have scalar := (Bool.and_eq_true_iff.mp spread).2
      split at made
      · cases made
        exact ⟨Or.inl rfl, .refl left, Or.inl scalar⟩
      · cases made
    · split at made
      · cases made
      · rename_i same
        simp only [bne_iff_ne, ne_eq, Bool.or_eq_true, not_or,
          Decidable.not_not] at same
        rcases eq_or_eq_of_cheaperSide? made with rfl | rfl
        · exact ⟨Or.inl rfl, .refl type, Or.inr ⟨same.1.symm, same.2.symm⟩⟩
        · exact ⟨Or.inr rfl, Or.inr same, .refl type⟩

end Componentwise

/-! ## Products -/

namespace Builtin

/-- The scalars that vectors are made of. -/
def vectorComponents : List Ty := [float, half, int, uint, short, ushort, byte, ubyte, bool]

theorem map_component_filter_isVector :
    (all.filter (·.isVector)).map Ty.component =
      vectorComponents.flatMap (List.replicate 3) := by
  rfl

theorem map_component_filter_isMatrix :
    (all.filter (·.isMatrix)).map Ty.component =
      [float, half].flatMap (List.replicate 9) := by
  rfl

theorem shape_of_compound : (all.filter fun type => type.isVector || type.isMatrix).all
    (fun type => type.columns ∈ [1, 2, 3, 4] && type.rows ∈ [1, 2, 3, 4]) = true := by
  rfl

/-- Between the component of a matrix and another one, a float wins. -/
theorem cheaperSide?_isFloat : ∀ matrix ∈ [float, half], ∀ other ∈ vectorComponents,
    ∀ allowNarrowing, (cheaperSide? matrix other allowNarrowing).all (·.isFloat) = true ∧
      (cheaperSide? other matrix allowNarrowing).all (·.isFloat) = true := by
  decide +kernel

/-- Vectors and matrices over the float family do not have integers. -/
theorem isInteger_of_compound : ∀ component ∈ vectorComponents.filter (·.isFloat),
    ∀ columns ∈ [1, 2, 3, 4], ∀ rows ∈ [1, 2, 3, 4],
      (compound component columns rows).toOption.any (·.component.isInteger) = false := by
  decide +kernel

end Builtin

namespace Ty.Standard

variable {type : Ty}

theorem component_of_isVector (standard : type.Standard) (vector : type.isVector = true) :
    type.component ∈ Builtin.vectorComponents := by
  cases standard with
  | builtin member =>
    have image := List.mem_map_of_mem (f := Ty.component) (List.mem_filter.mpr ⟨member, vector⟩)
    rw [Builtin.map_component_filter_isVector] at image
    obtain ⟨component, known, same⟩ := List.mem_flatMap.mp image
    rw [List.eq_of_mem_replicate same]
    exact known
  | array | struct | enum => cases vector

theorem component_of_isMatrix (standard : type.Standard) (matrix : type.isMatrix = true) :
    type.component ∈ [Builtin.float, Builtin.half] := by
  cases standard with
  | builtin member =>
    have image := List.mem_map_of_mem (f := Ty.component) (List.mem_filter.mpr ⟨member, matrix⟩)
    rw [Builtin.map_component_filter_isMatrix] at image
    obtain ⟨component, known, same⟩ := List.mem_flatMap.mp image
    rw [List.eq_of_mem_replicate same]
    exact known
  | array | struct | enum => cases matrix

theorem shape_of_compound (standard : type.Standard)
    (compound : (type.isVector || type.isMatrix) = true) :
    type.columns ∈ [1, 2, 3, 4] ∧ type.rows ∈ [1, 2, 3, 4] := by
  cases standard with
  | builtin member =>
    have shape := List.all_eq_true.mp Builtin.shape_of_compound type
      (List.mem_filter.mpr ⟨member, compound⟩)
    simpa only [Bool.and_eq_true, decide_eq_true_eq] using shape
  | array | struct | enum => cases compound

end Ty.Standard

/-- Of vectors and matrices there are only the builtin ones; of other types there may be any. -/
def Ty.BuiltinShape (type : Ty) : Prop :=
  (type.isVector || type.isMatrix) = true → type.Standard

theorem Ty.BuiltinShape.of_plain {type : Ty} (plain : (type.isVector || type.isMatrix) = false) :
    type.BuiltinShape := by
  intro compound
  rw [plain] at compound
  cases compound

theorem Ty.BuiltinShape.of_isVector {type : Ty} (known : type.BuiltinShape)
    (vector : type.isVector = true) : type.Standard :=
  known (by rw [vector, Bool.true_or])

theorem Ty.BuiltinShape.of_isMatrix {type : Ty} (known : type.BuiltinShape)
    (matrix : type.isMatrix = true) : type.Standard :=
  known (by rw [matrix, Bool.or_true])

section Product

variable {left right type : Ty} {columns rows : Nat} {allowNarrowing agrees : Bool}

/-- The components of a matrix on one side and a vector or another matrix on the other one. -/
inductive ProductComponents : Ty → Ty → Prop where
  | left {matrix other : Ty} (float : matrix ∈ [Builtin.float, Builtin.half])
      (known : other ∈ Builtin.vectorComponents) : ProductComponents matrix other
  | right {other matrix : Ty} (known : other ∈ Builtin.vectorComponents)
      (float : matrix ∈ [Builtin.float, Builtin.half]) : ProductComponents other matrix

theorem productShape?_cases (leftKnown : left.BuiltinShape) (rightKnown : right.BuiltinShape)
    (shaped : productShape? left right = some (columns, rows, agrees)) :
    columns ∈ [1, 2, 3, 4] ∧ rows ∈ [1, 2, 3, 4] ∧
      ProductComponents left.component right.component := by
  have matrixShape {type : Ty} (known : type.BuiltinShape) (matrix : type.isMatrix = true) :
      (type.columns ∈ [1, 2, 3, 4] ∧ type.rows ∈ [1, 2, 3, 4]) ∧
        type.component ∈ [Builtin.float, Builtin.half] :=
    ⟨(known.of_isMatrix matrix).shape_of_compound (by rw [matrix, Bool.or_true]),
      (known.of_isMatrix matrix).component_of_isMatrix matrix⟩
  rw [productShape?] at shaped
  split at shaped
  · rename_i both
    obtain ⟨leftMatrix, rightMatrix⟩ := Bool.and_eq_true_iff.mp both
    obtain ⟨leftShape, leftFloat⟩ := matrixShape leftKnown leftMatrix
    obtain ⟨rightShape, rightFloat⟩ := matrixShape rightKnown rightMatrix
    cases shaped
    exact ⟨rightShape.1, leftShape.2, .left leftFloat (List.mem_append_left _ rightFloat)⟩
  · split at shaped
    · rename_i both
      obtain ⟨leftMatrix, rightVector⟩ := Bool.and_eq_true_iff.mp both
      obtain ⟨leftShape, leftFloat⟩ := matrixShape leftKnown leftMatrix
      have rightComponent := (rightKnown.of_isVector rightVector).component_of_isVector rightVector
      cases shaped
      exact ⟨leftShape.2, by decide, .left leftFloat rightComponent⟩
    · split at shaped
      · rename_i both
        obtain ⟨leftVector, rightMatrix⟩ := Bool.and_eq_true_iff.mp both
        obtain ⟨rightShape, rightFloat⟩ := matrixShape rightKnown rightMatrix
        have leftComponent := (leftKnown.of_isVector leftVector).component_of_isVector leftVector
        cases shaped
        exact ⟨rightShape.1, by decide, .right leftComponent rightFloat⟩
      · cases shaped

/-- Of the components of a product a float is chosen. -/
theorem ProductComponents.chosen (components : ProductComponents left right)
    (cheaper : cheaperSide? left right allowNarrowing = some type) :
    type ∈ Builtin.vectorComponents.filter (·.isFloat) := by
  cases components with
  | left float known =>
    have isFloat := (Builtin.cheaperSide?_isFloat left float right known allowNarrowing).1
    rw [cheaper] at isFloat
    refine List.mem_filter.mpr ⟨?_, isFloat⟩
    rcases eq_or_eq_of_cheaperSide? cheaper with rfl | rfl
    · exact List.mem_append_left _ float
    · exact known
  | right known float =>
    have isFloat := (Builtin.cheaperSide?_isFloat right float left known allowNarrowing).2
    rw [cheaper] at isFloat
    refine List.mem_filter.mpr ⟨?_, isFloat⟩
    rcases eq_or_eq_of_cheaperSide? cheaper with rfl | rfl
    · exact known
    · exact List.mem_append_left _ float

theorem isInteger_of_productType? (leftKnown : left.BuiltinShape) (rightKnown : right.BuiltinShape)
    (shaped : productShape? left right = some (columns, rows, agrees))
    (made : productType? left right columns rows allowNarrowing = .ok (some type)) :
    type.component.isInteger = false := by
  obtain ⟨columnsKnown, rowsKnown, components⟩ :=
    productShape?_cases leftKnown rightKnown shaped
  rw [productType?] at made
  split at made
  · rename_i component cheaper
    have integers := Builtin.isInteger_of_compound component (components.chosen cheaper) columns
      columnsKnown rows rowsKnown
    cases compound : Builtin.compound component columns rows with
    | error fault =>
      rw [compound] at made
      cases made
    | ok found =>
      rw [compound] at made integers
      cases made
      exact integers
  · cases made

end Product

/-- Arithmetic that gives integers works component by component. -/
theorem Operator.componentwise_of_isInteger {op : Operator} {left right type : Ty}
    {allowNarrowing : Bool} (leftKnown : left.BuiltinShape) (rightKnown : right.BuiltinShape)
    (made : op.arithmeticType? left right allowNarrowing = .ok (some type))
    (integer : type.component.isInteger = true) :
    componentwiseType? left right allowNarrowing = some type := by
  rcases (arithmeticType?_cases made).2 with componentwise | ⟨columns, rows, shaped, product⟩
  · exact componentwise
  · rw [isInteger_of_productType? leftKnown rightKnown shaped product] at integer
    cases integer

/-- The operands of arithmetic that gives integers spread to its shape. -/
theorem Operator.arithmetic_shapes {op : Operator} {left right type : Ty} {allowNarrowing : Bool}
    (leftKnown : left.BuiltinShape) (rightKnown : right.BuiltinShape)
    (made : op.arithmeticType? left right allowNarrowing = .ok (some type))
    (integer : type.component.isInteger = true) :
    left.isShaped = true ∧ right.isShaped = true ∧ type.isShaped = true ∧ left.SpreadsTo type ∧
      right.SpreadsTo type := by
  have componentwise := componentwise_of_isInteger leftKnown rightKnown made integer
  obtain ⟨side, leftSpreads, rightSpreads⟩ := componentwiseType?_cases componentwise
  have taken := (arithmeticType?_cases made).1
  simp only [takes, Bool.and_eq_true] at taken
  obtain ⟨⟨leftShaped, _⟩, rightShaped, _⟩ := taken
  refine ⟨leftShaped, rightShaped, ?_, leftSpreads, rightSpreads⟩
  rcases side with rfl | rfl
  · exact leftShaped
  · exact rightShaped

end Shading
