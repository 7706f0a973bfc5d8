import Mathlib.Algebra.GroupWithZero.Nat
import Shading.Proofs.Expr.Built
import Shading.Proofs.Proper
import Shading.Proofs.Type.Slots
import Shading.Proofs.Type.Standard

/-!
Well-typed expressions. `Expr.WellTyped` has one constructor for each kind of node that a program
can hold, with what the type of the node has to do with its parts. Main statement:
`Expr.Built.wellTyped`, what the builders make of standard types is well typed, also where they fold
a node or leave it out.
-/

namespace Shading

/-- What the arguments of a constructor call have to be for its type. -/
inductive Expr.Constructs (type : Ty) : Flavour → List Expr → Prop where
  | array {size : ArraySize} {arguments : List Expr} (sized : type.arraySize? = some size)
      (complete : ∀ count ∈ size.count?, arguments.length = count.toNat)
      (elements : ∀ argument ∈ arguments, (argument.type == type.component) = true) :
      Constructs type .array arguments
  | compound {arguments : List Expr} {counts : List Nat}
      (target : (type.isVector || type.isMatrix) = true)
      (slots : arguments.map (·.type.slotCount) = counts.map Except.ok)
      (filled : type.slotCount = .ok counts.sum) : Constructs type .compound arguments
  | struct {arguments : List Expr} (target : type.isStruct = true)
      (complete : arguments.length = type.members.length) : Constructs type .struct arguments
  | compoundCast {argument : Expr} (target : (type.isVector || type.isMatrix) = true)
      (shape : argument.type.columns = type.columns ∧ argument.type.rows = type.rows) :
      Constructs type .compoundCast [argument]
  | diagonalMatrix {argument : Expr} (target : type.isMatrix = true)
      (scalar : argument.type.isScalar = true) : Constructs type .diagonalMatrix [argument]
  | matrixResize {argument : Expr} (target : type.isMatrix = true)
      (matrix : argument.type.isMatrix = true) : Constructs type .matrixResize [argument]
  | scalarCast {argument : Expr} (target : type.isScalar = true)
      (scalar : argument.type.isScalar = true) : Constructs type .scalarCast [argument]
  | splat {argument : Expr} (target : (type.isVector || type.isMatrix) = true)
      (scalar : argument.type.isScalar = true) : Constructs type .splat [argument]

/-- An expression that is well typed at every node. -/
inductive Expr.WellTyped (context : Context) : Expr → Prop where
  | boolLiteral {info : Expr.Info} {value : Bool} (typed : info.type = Builtin.bool) :
      WellTyped context (.boolLiteral info value)
  | intLiteral {info : Expr.Info} {value : Int64} (typed : info.type.isInteger = true) :
      WellTyped context (.intLiteral info value)
  | floatLiteral {info : Expr.Info} {value : Double} (typed : info.type.isFloat = true) :
      WellTyped context (.floatLiteral info value)
  | setting {info : Expr.Info} {name : String} (typed : info.type = Builtin.bool) :
      WellTyped context (.setting info name)
  | binary {info : Expr.Info} {left right : Expr} {op : Operator}
      (leftTyped : WellTyped context left) (rightTyped : WellTyped context right)
      (typed : op.resultType? left.type right.type context.allowNarrowing = .ok (some info.type)) :
      WellTyped context (.binary info left op right)
  | ternary {info : Expr.Info} {test whenTrue whenFalse : Expr} (testTyped : WellTyped context test)
      (trueTyped : WellTyped context whenTrue) (falseTyped : WellTyped context whenFalse)
      (boolean : test.type.isBoolean = true) (equal : (whenTrue.type == whenFalse.type) = true)
      (typed : info.type = whenTrue.type) :
      WellTyped context (.ternary info test whenTrue whenFalse)
  | index {info : Expr.Info} {base position : Expr} (baseTyped : WellTyped context base)
      (positionTyped : WellTyped context position) (integer : position.type.isInteger = true)
      (typed : elementType base.type = .ok info.type) :
      WellTyped context (.index info base position)
  | member {info : Expr.Info} {base : Expr} {index : Nat} {owner : MemberOwner} {found : Member}
      (baseTyped : WellTyped context base) (inRange : base.type.members[index]? = some found)
      (typed : info.type = found.type) : WellTyped context (.member info base index owner)
  | swizzle {info : Expr.Info} {base : Expr} {lanes : List Lane}
      (baseTyped : WellTyped context base)
      (target : (base.type.isScalar || base.type.isVector) = true)
      (atLeast : 1 ≤ lanes.length) (atMost : lanes.length ≤ 4)
      (typed : Builtin.compound base.type.component lanes.length 1 = .ok info.type) :
      WellTyped context (.swizzle info base lanes)
  | call {info : Expr.Info} {function : Function} {arguments : List Expr}
      (argumentsTyped : ∀ argument ∈ arguments, WellTyped context argument)
      (complete : arguments.length = function.parameters.length) :
      WellTyped context (.call info function arguments)
  /-- What is only named has no type of its own. -/
  | functionName {info : Expr.Info} {functions : List Function}
      (typed : info.type = Builtin.invalid) : WellTyped context (.functionName info functions)
  | typeName {info : Expr.Info} {value : Ty} (typed : info.type = Builtin.invalid) :
      WellTyped context (.typeName info value)
  | reference {info : Expr.Info} {target : Variable} {use : RefKind}
      (typed : info.type = target.type) : WellTyped context (.reference info target use)
  | construct {info : Expr.Info} {flavour : Flavour} {arguments : List Expr}
      (argumentsTyped : ∀ argument ∈ arguments, WellTyped context argument)
      (fits : Constructs info.type flavour arguments) :
      WellTyped context (.construct info flavour arguments)
  | postfixed {info : Expr.Info} {operand : Expr} {op : Operator}
      (operandTyped : WellTyped context operand) (typed : info.type = operand.type) :
      WellTyped context (.postfixed info operand op)
  | prefixed {info : Expr.Info} {op : Operator} {operand : Expr}
      (operandTyped : WellTyped context operand) (typed : info.type = operand.type) :
      WellTyped context (.prefixed info op operand)

namespace Expr

variable {context : Context} {span : Span} {type : Ty} {arguments : List Expr} {expr : Expr}

open Stepping

/-! ## Constructor calls -/

theorem countSlots_sumsSlots : Ty.SumsSlots (fun argument => argument.type) countSlots where
  nil _ := rfl
  cons _ _ _ := rfl

theorem isScalar_of_numberKind (number : type.numberKind ≠ .nonNumeric) :
    type.isScalar = true := by
  cases type with
  | scalar | literal => rfl
  | _ => exact absurd rfl number

variable (context) in
/-- A converted literal is a literal of its type. -/
theorem castLiteral?_wellTyped {literal : Expr} (made : castLiteral? span type literal = some expr)
    (boolean : type.isBoolean = true → type = Builtin.bool) :
    expr.WellTyped context ∧ expr.type = type ∧ type.isScalar = true := by
  rw [castLiteral?] at made
  split at made
  · cases made
  · split at made
    · rename_i isBoolean
      cases made
      refine ⟨.boolLiteral (boolean isBoolean), rfl, isScalar_of_numberKind ?_⟩
      intro none
      rw [Ty.isBoolean, none] at isBoolean
      cases isBoolean
    · split at made
      · rename_i isInteger
        cases made
        exact ⟨.intLiteral isInteger, rfl, Ty.isScalar_of_isInteger isInteger⟩
      · split at made
        · rename_i isFloat
          cases made
          refine ⟨.floatLiteral isFloat, rfl, isScalar_of_numberKind ?_⟩
          intro none
          rw [Ty.isFloat, none] at isFloat
          cases isFloat
        · cases made

/-- All that a constructor call can give: a new node, its one argument as it is, or a literal that
the cast of a literal folds to. -/
inductive Constructed (span : Span) (type : Ty) : Flavour → List Expr → Expr → Prop where
  | node {flavour : Flavour} {arguments : List Expr} (fits : Constructs type flavour arguments) :
      Constructed span type flavour arguments (.construct ⟨span, type⟩ flavour arguments)
  | itself {flavour : Flavour} {argument : Expr} (same : (argument.type == type) = true) :
      Constructed span type flavour [argument] argument
  | foldedSplat {argument scalar literal : Expr}
      (target : (type.isVector || type.isMatrix) = true)
      (spread : argument.splatScalar? = some scalar)
      (cast : castLiteral? scalar.span type.component scalar = some literal) :
      Constructed span type .compoundCast [argument] (.construct ⟨span, type⟩ .splat [literal])
  | folded {argument literal : Expr} (cast : castLiteral? span type argument = some literal) :
      Constructed span type .scalarCast [argument] literal
  | scalar {argument : Expr} (target : type.isScalar = true)
      (scalar : argument.type.isScalar = true) : Constructed span type .splat [argument] argument

theorem constructed_of_constructArray (made : constructArray span type arguments = .ok expr) :
    Constructed span type .array arguments expr := by
  rw [constructArray] at made
  cases sized : type.arraySize? with
  | none =>
    rw [sized] at made
    cases made
  | some size =>
    rw [sized] at made
    dsimp only at made
    have checked : (∀ count ∈ size.count?, arguments.length = count.toNat) ∧
        (ensure (arguments.all fun argument => argument.type == type.component) .elementType >>=
          fun _ => pure (Expr.construct ⟨span, type⟩ .array arguments)) = .ok expr := by
      cases counted : size.count? with
      | none =>
        rw [counted] at made
        refine ⟨?_, made⟩
        intro count isCount
        cases isCount
      | some count =>
        rw [counted] at made
        obtain ⟨same, rest⟩ := passed_of_ensure made
        refine ⟨?_, rest⟩
        intro other isCount
        cases isCount
        exact eq_of_beq same
    obtain ⟨elements, built⟩ := passed_of_ensure checked.2
    cases built
    exact .node (.array sized checked.1 (List.all_eq_true.mp elements))

theorem constructed_of_constructCompound
    (made : constructCompound span type arguments = .ok expr) :
    Constructed span type .compound arguments expr := by
  obtain ⟨target, rest⟩ := passed_of_ensure made
  have assembled : ∀ result : Expr, (do
      let given ← countSlots 0 arguments
      let expected ← type.slotCount
      ensure (given == expected) (.slotCount given expected type.name)
      return Expr.construct ⟨span, type⟩ .compound arguments) = .ok result →
      Constructed span type .compound arguments result := by
    intro result whole
    obtain ⟨given, counted, more⟩ := exists_of_bind_ok whole
    obtain ⟨expected, slots, last⟩ := exists_of_bind_ok more
    obtain ⟨same, built⟩ := passed_of_ensure last
    cases built
    obtain ⟨counts, each, total⟩ := countSlots_sumsSlots.exists_counts counted
    refine .node (.compound target each ?_)
    rw [slots, ← eq_of_beq same, total, Nat.zero_add]
  -- A single argument of the right type is the result itself; all else is assembled.
  cases arguments with
  | nil => exact assembled expr rest
  | cons argument others =>
    cases others with
    | cons => exact assembled expr rest
    | nil =>
      dsimp only at rest
      split at rest
      · rename_i same
        cases rest
        exact .itself same
      · exact assembled expr rest

theorem constructed_of_constructStruct (made : constructStruct span type arguments = .ok expr) :
    Constructed span type .struct arguments expr := by
  obtain ⟨target, rest⟩ := passed_of_ensure made
  obtain ⟨complete, built⟩ := passed_of_ensure rest
  cases built
  exact .node (.struct target (eq_of_beq complete))

theorem constructed_of_compoundCast {argument : Expr}
    (made : compoundCast span type argument = .ok expr) :
    Constructed span type .compoundCast [argument] expr := by
  obtain ⟨checked, rest⟩ := passed_of_ensure made
  simp only [Bool.and_eq_true, beq_iff_eq] at checked
  obtain ⟨⟨target, columns⟩, rows⟩ := checked
  split at rest
  · rename_i same
    cases rest
    exact .itself same
  · dsimp only at rest
    split at rest
    · rename_i folded isFolded
      cases rest
      obtain ⟨scalar, spread, cast⟩ := Option.bind_eq_some_iff.mp isFolded
      exact .foldedSplat target spread cast
    · cases rest
      exact .node (.compoundCast target ⟨columns, rows⟩)

theorem constructed_of_constructSingle {flavour : Flavour} {argument : Expr}
    (single : flavour ∈ [.compoundCast, .diagonalMatrix, .matrixResize, .scalarCast, .splat])
    (made : constructSingle span flavour type argument = .ok expr) :
    Constructed span type flavour [argument] expr := by
  cases flavour with
  | compoundCast => exact constructed_of_compoundCast made
  | diagonalMatrix =>
    obtain ⟨checked, built⟩ := passed_of_ensure made
    rw [Bool.and_eq_true] at checked
    cases built
    exact .node (.diagonalMatrix checked.1 checked.2)
  | matrixResize =>
    obtain ⟨checked, rest⟩ := passed_of_ensure made
    rw [Bool.and_eq_true] at checked
    split at rest
    · rename_i same
      cases rest
      exact .itself same
    · cases rest
      exact .node (.matrixResize checked.1 checked.2)
  | scalarCast =>
    obtain ⟨checked, rest⟩ := passed_of_ensure made
    rw [Bool.and_eq_true] at checked
    split at rest
    · rename_i same
      cases rest
      exact .itself same
    · split at rest
      · rename_i isFolded
        cases rest
        exact .folded isFolded
      · cases rest
        exact .node (.scalarCast checked.1 checked.2)
  | splat =>
    obtain ⟨scalar, rest⟩ := passed_of_ensure made
    split at rest
    · rename_i target
      cases rest
      exact .scalar target scalar
    · obtain ⟨vector, built⟩ := passed_of_ensure rest
      cases built
      refine .node (.splat ?_ scalar)
      rw [vector]
      rfl
  | array | compound | struct => simp at single

/-- What a constructor call gives, whatever its flavour is. -/
theorem constructed_of_constructOf {flavour : Flavour}
    (made : constructOf span flavour type arguments = .ok expr) :
    Constructed span type flavour arguments expr := by
  cases flavour with
  | array => exact constructed_of_constructArray made
  | compound => exact constructed_of_constructCompound made
  | struct => exact constructed_of_constructStruct made
  | compoundCast | diagonalMatrix | matrixResize | scalarCast | splat =>
    rcases arguments with _ | ⟨argument, _ | _⟩
    · cases made
    · exact constructed_of_constructSingle (by decide) made
    · cases made

theorem constructOf_wellTyped {flavour : Flavour} (standard : type.Standard)
    (made : constructOf span flavour type arguments = .ok expr)
    (typed : ∀ argument ∈ arguments, argument.WellTyped context) : expr.WellTyped context := by
  cases constructed_of_constructOf made with
  | node fits => exact .construct typed fits
  | itself | scalar => exact typed _ (List.mem_singleton_self _)
  | foldedSplat target spread cast =>
    obtain ⟨literal, sameType, isScalar⟩ :=
      castLiteral?_wellTyped context cast standard.component_eq_bool
    exact .construct (List.forall_mem_singleton.mpr literal)
      (.splat target (by rw [sameType]; exact isScalar))
  | folded cast => exact (castLiteral?_wellTyped context cast standard.eq_bool).1

/-! ## All builders -/

theorem binaryOf_wellTyped {left right : Expr} {op : Operator} (leftTyped : left.WellTyped context)
    (rightTyped : right.WellTyped context) (made : binaryOf context left op right = .ok expr) :
    expr.WellTyped context := by
  obtain ⟨result, found, rest⟩ := exists_of_bind_ok made
  cases result with
  | none => cases rest
  | some type =>
    cases rest
    exact .binary leftTyped rightTyped found

theorem Built.wellTyped (built : expr.Built context Ty.Standard) : expr.WellTyped context := by
  induction built with
  | ofBool span value => exact .boolLiteral rfl
  | ofInt known made =>
    obtain ⟨integer, same⟩ := passed_of_ensure made
    cases same
    exact .intLiteral integer
  | ofPlainInt span value => exact .intLiteral rfl
  | ofDouble known made =>
    obtain ⟨float, same⟩ := passed_of_ensure made
    cases same
    exact .floatLiteral float
  | binaryOf _ _ made leftTyped rightTyped => exact binaryOf_wellTyped leftTyped rightTyped made
  | @memberOf base position owner expr _ made baseTyped =>
    rw [Expr.memberOf] at made
    split at made
    · rename_i found inRange
      cases made
      exact .member baseTyped inRange rfl
    · cases made
  | callOf known _ made argumentsTyped =>
    obtain ⟨complete, same⟩ := passed_of_ensure made
    cases same
    exact .call argumentsTyped (eq_of_beq complete)
  | ofFunctions span functions => exact .functionName rfl
  | indexOf _ _ made baseTyped positionTyped =>
    obtain ⟨integer, rest⟩ := passed_of_ensure made
    obtain ⟨element, found, same⟩ := exists_of_bind_ok rest
    cases same
    exact .index baseTyped positionTyped integer found
  | postfixedOf _ made operandTyped =>
    obtain ⟨_, rest⟩ := passed_of_ensure made
    obtain ⟨_, same⟩ := passed_of_ensure rest
    cases same
    exact .postfixed operandTyped rfl
  | prefixedOf _ made operandTyped =>
    obtain ⟨_, same⟩ := passed_of_ensure made
    cases same
    exact .prefixed operandTyped rfl
  | ofSetting span name =>
    rw [Expr.ofSetting]
    split
    · exact .boolLiteral rfl
    · exact .intLiteral rfl
    · exact .setting rfl
  | swizzleOf _ made baseTyped =>
    obtain ⟨target, rest⟩ := passed_of_ensure made
    obtain ⟨length, more⟩ := passed_of_ensure rest
    obtain ⟨type, found, same⟩ := exists_of_bind_ok more
    simp only [Bool.and_eq_true, decide_eq_true_eq] at length
    cases same
    exact .swizzle baseTyped target length.1 length.2 found
  | ternaryOf _ _ _ made testTyped trueTyped falseTyped =>
    obtain ⟨boolean, rest⟩ := passed_of_ensure made
    obtain ⟨equal, same⟩ := passed_of_ensure rest
    cases same
    exact .ternary testTyped trueTyped falseTyped boolean equal rfl
  | ofType span value => exact .typeName rfl
  | ofVariable span target use => exact .reference rfl
  | constructOf known _ made argumentsTyped =>
    exact constructOf_wellTyped known made argumentsTyped

end Expr

end Shading
