import Shading.Proofs.Decode.Session
import Shading.Proofs.Expr.WellTyped
import Shading.Proofs.Type.Arithmetic

/-!
The operands of arithmetic. Binary operators take scalars, vectors and matrices of numbers. Prefix
and postfix operators look at the element of a type only, so that they take arrays of numbers as
well, and nothing else. This holds at every node of every tree that is built, as each builder checks
the operands of its node. Main statement: `Expr.operands_lawful`; `Expr.negatedArray_made` shows an
array under a minus.
-/

namespace Shading

/-! ## Types of operands -/

/-- Whether the elements of a type are numbers that an operator works on. -/
def Operator.worksOn (op : Operator) (type : Ty) : Bool :=
  if op.isBitwise || op == bitNot then type.component.isInteger else type.component.isNumber

namespace Ty

variable {type : Ty}

theorem isNumber_of_isInteger (integer : type.isInteger = true) : type.isNumber = true := by
  rw [isInteger] at integer
  rw [isNumber]
  cases kind : type.numberKind with
  | signed | unsigned => rfl
  | _ => simp [kind] at integer

/-- Only arrays have numbers as elements besides the types that arithmetic works on. -/
theorem isShaped_or_isArray (number : type.component.isNumber = true) :
    type.isShaped = true ∨ type.isArray = true := by
  cases type with
  | scalar | literal | vector | matrix => exact Or.inl rfl
  | array => exact Or.inr rfl
  | _ => cases number

end Ty

namespace Operator

variable {op : Operator} {type : Ty}

theorem isShaped_or_isArray_of_worksOn (works : op.worksOn type = true) :
    type.isShaped = true ∨ type.isArray = true := by
  rw [worksOn] at works
  split at works
  · exact Ty.isShaped_or_isArray (Ty.isNumber_of_isInteger works)
  · exact Ty.isShaped_or_isArray works

theorem worksOn_of_takes (arithmetic : op.isArithmetic = true) (taken : op.takes type = true) :
    op.worksOn type = true ∧ type.isShaped = true := by
  have other : (op == bitNot) = false := by
    cases op with
    | bitNot => cases arithmetic
    | _ => rfl
  obtain ⟨shaped, elements⟩ := Bool.and_eq_true_iff.mp taken
  refine ⟨?_, shaped⟩
  rw [worksOn, other, Bool.or_false]
  exact elements

/-- The operators of arithmetic that stand before their operand. -/
def isArithmeticPrefix (op : Operator) : Bool :=
  op matches plus | minus | bitNot | increment | decrement

theorem prefixTakes_eq_worksOn (arithmetic : op.isArithmeticPrefix = true) :
    Expr.prefixTakes op type = op.worksOn type := by
  cases op with
  | plus | minus | bitNot | increment | decrement => rfl
  | _ => cases arithmetic

end Operator

namespace Expr

/-! ## Nodes -/

/-- The expressions that a node is made of. -/
def children : Expr → List Expr
  | binary _ left _ right => [left, right]
  | construct _ _ arguments => arguments
  | member _ base _ _ => [base]
  | call _ _ arguments => arguments
  | index _ base position => [base, position]
  | postfixed _ operand _ => [operand]
  | prefixed _ _ operand => [operand]
  | swizzle _ base _ => [base]
  | ternary _ test whenTrue whenFalse => [test, whenTrue, whenFalse]
  | boolLiteral .. | intLiteral .. | floatLiteral .. | functionName .. | setting .. | typeName ..
  | reference .. => []

open Stepping

/-- A node is part of an expression, at any depth. -/
inductive Within (node : Expr) : Expr → Prop where
  | here : Within node node
  | deeper {child expr : Expr} (member : child ∈ expr.children) (within : Within node child) :
      Within node expr

/-- An operand of arithmetic at a node. -/
inductive Operand : Expr → Operator → Expr → Prop where
  | left {info : Info} {left right : Expr} {op : Operator} (arithmetic : op.isArithmetic = true) :
      Operand (binary info left op right) op left
  | right {info : Info} {left right : Expr} {op : Operator} (arithmetic : op.isArithmetic = true) :
      Operand (binary info left op right) op right
  | prefixed {info : Info} {op : Operator} {operand : Expr}
      (arithmetic : op.isArithmeticPrefix = true) : Operand (prefixed info op operand) op operand
  | postfixed {info : Info} {operand : Expr} {op : Operator}
      (arithmetic : op = .increment ∨ op = .decrement) :
      Operand (postfixed info operand op) op operand

/-- Whether a node is an operator with its operands. -/
def isOperation (expr : Expr) : Bool := expr matches binary .. | prefixed .. | postfixed ..

/-- Whether a node has one operand, before or after its operator. -/
def isUnary (expr : Expr) : Bool := expr matches prefixed .. | postfixed ..

/-- An operand of an operator has numbers for its elements, and is a scalar, vector or matrix, or
else an array at a prefix or postfix node. -/
structure Suits (node : Expr) (op : Operator) (operand : Expr) : Prop where
  elements : op.worksOn operand.type = true
  shaped : operand.type.isShaped = true ∨ (operand.type.isArray = true ∧ node.isUnary = true)

/-- All operands of arithmetic in an expression fit. -/
def OperandsFit (expr : Expr) : Prop :=
  ∀ node : Expr, node.Within expr → ∀ op operand, node.Operand op operand → node.Suits op operand

variable {context : Context} {span : Span} {type : Ty} {left right operand literal expr : Expr}
  {op : Operator} {operands arguments : List Expr}

theorem operandsFit_of_children
    (top : ∀ op operand, expr.Operand op operand → expr.Suits op operand)
    (below : ∀ child ∈ expr.children, child.OperandsFit) : expr.OperandsFit := by
  intro node within
  cases within with
  | here => exact top
  | deeper member within => exact below _ member node within

/-- A node without an operator has no operands. -/
theorem operandsFit_of_plain (plain : expr.isOperation = false)
    (below : ∀ child ∈ expr.children, child.OperandsFit) : expr.OperandsFit := by
  refine operandsFit_of_children ?_ below
  intro op operand isOperand
  cases isOperand with
  | left | right | prefixed | postfixed => cases plain

theorem operandsFit_of_leaf (plain : expr.isOperation = false) (leaf : expr.children = []) :
    expr.OperandsFit := by
  refine operandsFit_of_plain plain ?_
  rw [leaf]
  exact List.forall_mem_nil _

theorem operandsFit_of_isLiteral (literal : expr.isLiteral = true) : expr.OperandsFit := by
  cases expr with
  | boolLiteral | intLiteral | floatLiteral => exact operandsFit_of_leaf rfl rfl
  | _ => cases literal

/-! ## Builders -/

theorem binaryOf_operandsFit (leftFits : left.OperandsFit) (rightFits : right.OperandsFit)
    (made : binaryOf context left op right = .ok expr) : expr.OperandsFit := by
  obtain ⟨result, found, rest⟩ := exists_of_bind_ok made
  cases result with
  | none => cases rest
  | some type =>
    cases rest
    -- The operands were tested before the type of the node was looked for.
    have taken (arithmetic : op.isArithmetic = true) :
        (op.takes left.type && op.takes right.type) = true := by
      rw [Operator.resultType?_of_isArithmetic arithmetic] at found
      exact (Operator.arithmeticType?_cases found).1
    refine operandsFit_of_children ?_ (by simp [children, leftFits, rightFits])
    intro applied operand isOperand
    cases isOperand with
    | left arithmetic =>
      have leftTaken := (Bool.and_eq_true_iff.mp (taken arithmetic)).1
      obtain ⟨works, shaped⟩ := Operator.worksOn_of_takes arithmetic leftTaken
      exact ⟨works, Or.inl shaped⟩
    | right arithmetic =>
      have rightTaken := (Bool.and_eq_true_iff.mp (taken arithmetic)).2
      obtain ⟨works, shaped⟩ := Operator.worksOn_of_takes arithmetic rightTaken
      exact ⟨works, Or.inl shaped⟩

/-- At a prefix or postfix node, the elements decide. -/
theorem suits_of_worksOn {node : Expr} (unary : node.isUnary = true)
    (works : op.worksOn operand.type = true) : node.Suits op operand where
  elements := works
  shaped := (Operator.isShaped_or_isArray_of_worksOn works).imp id fun array => ⟨array, unary⟩

theorem prefixedOf_operandsFit (fits : operand.OperandsFit)
    (made : prefixedOf op operand = .ok expr) : expr.OperandsFit := by
  obtain ⟨taken, same⟩ := passed_of_ensure made
  cases same
  refine operandsFit_of_children ?_ (by simp [children, fits])
  intro applied under isOperand
  cases isOperand with
  | prefixed arithmetic =>
    rw [Operator.prefixTakes_eq_worksOn arithmetic] at taken
    exact suits_of_worksOn rfl taken

theorem postfixedOf_operandsFit (fits : operand.OperandsFit)
    (made : postfixedOf operand op = .ok expr) : expr.OperandsFit := by
  obtain ⟨_, rest⟩ := passed_of_ensure made
  obtain ⟨number, same⟩ := passed_of_ensure rest
  cases same
  refine operandsFit_of_children ?_ (by simp [children, fits])
  intro applied under isOperand
  cases isOperand with
  | postfixed arithmetic =>
    rcases arithmetic with rfl | rfl
    · exact suits_of_worksOn rfl number
    · exact suits_of_worksOn rfl number

theorem isLiteral_of_castLiteral? (made : castLiteral? span type literal = some expr) :
    expr.isLiteral = true := by
  rw [castLiteral?] at made
  split at made
  · cases made
  · split at made
    · cases made
      rfl
    · split at made
      · cases made
        rfl
      · split at made
        · cases made
          rfl
        · cases made

theorem constructOf_operandsFit {flavour : Flavour}
    (fits : ∀ argument ∈ arguments, argument.OperandsFit)
    (made : constructOf span flavour type arguments = .ok expr) : expr.OperandsFit := by
  cases constructed_of_constructOf made with
  | node => exact operandsFit_of_plain rfl fits
  | itself | scalar => exact fits _ (List.mem_singleton_self _)
  | foldedSplat _ _ cast =>
    have folded := operandsFit_of_isLiteral (isLiteral_of_castLiteral? cast)
    exact operandsFit_of_plain rfl (List.forall_mem_singleton.mpr folded)
  | folded cast => exact operandsFit_of_isLiteral (isLiteral_of_castLiteral? cast)

/-- What a builder makes of some operands, with one constructor for each builder. -/
inductive MadeOf (context : Context) : List Expr → Expr → Prop where
  | ofBool (span : Span) (value : Bool) : MadeOf context [] (ofBool span value)
  | ofInt {span : Span} {value : Int64} {type : Ty} {expr : Expr}
      (made : ofInt span value type = .ok expr) : MadeOf context [] expr
  | ofPlainInt (span : Span) (value : Int64) : MadeOf context [] (ofPlainInt span value)
  | ofDouble {span : Span} {value : Double} {type : Ty} {expr : Expr}
      (made : ofDouble span value type = .ok expr) : MadeOf context [] expr
  | binaryOf {left right : Expr} {op : Operator} {expr : Expr}
      (made : binaryOf context left op right = .ok expr) : MadeOf context [left, right] expr
  | memberOf {base : Expr} {position : Nat} {owner : MemberOwner} {expr : Expr}
      (made : memberOf base position owner = .ok expr) : MadeOf context [base] expr
  | callOf {span : Span} {type : Ty} {function : Function} {arguments : List Expr} {expr : Expr}
      (made : callOf span type function arguments = .ok expr) : MadeOf context arguments expr
  | ofFunctions (span : Span) (functions : List Function) :
      MadeOf context [] (ofFunctions span functions)
  | indexOf {base position : Expr} {expr : Expr} (made : indexOf base position = .ok expr) :
      MadeOf context [base, position] expr
  | postfixedOf {operand : Expr} {op : Operator} {expr : Expr}
      (made : postfixedOf operand op = .ok expr) : MadeOf context [operand] expr
  | prefixedOf {op : Operator} {operand : Expr} {expr : Expr}
      (made : prefixedOf op operand = .ok expr) : MadeOf context [operand] expr
  | ofSetting (span : Span) (name : String) : MadeOf context [] (ofSetting context span name)
  | swizzleOf {base : Expr} {lanes : List Lane} {expr : Expr}
      (made : swizzleOf base lanes = .ok expr) : MadeOf context [base] expr
  | ternaryOf {test whenTrue whenFalse : Expr} {expr : Expr}
      (made : ternaryOf test whenTrue whenFalse = .ok expr) :
      MadeOf context [test, whenTrue, whenFalse] expr
  | ofType (span : Span) (value : Ty) : MadeOf context [] (ofType span value)
  | ofVariable (span : Span) (target : Variable) (use : RefKind) :
      MadeOf context [] (ofVariable span target use)
  | constructOf {span : Span} {flavour : Flavour} {type : Ty} {arguments : List Expr} {expr : Expr}
      (made : constructOf span flavour type arguments = .ok expr) : MadeOf context arguments expr

/-- An expression that the builders made, of any types. -/
inductive Made (context : Context) : Expr → Prop where
  | step {operands : List Expr} {expr : Expr} (known : ∀ operand ∈ operands, Made context operand)
      (made : MadeOf context operands expr) : Made context expr

/-- What a builder makes of operands in which everything fits. -/
theorem MadeOf.operandsFit (made : MadeOf context operands expr)
    (fits : ∀ operand ∈ operands, operand.OperandsFit) : expr.OperandsFit := by
  cases made with
  | ofBool | ofPlainInt => exact operandsFit_of_isLiteral rfl
  | ofFunctions | ofType | ofVariable => exact operandsFit_of_leaf rfl rfl
  | ofSetting span name =>
    rw [Expr.ofSetting]
    split
    · exact operandsFit_of_isLiteral rfl
    · exact operandsFit_of_isLiteral rfl
    · exact operandsFit_of_leaf rfl rfl
  | ofInt made | ofDouble made =>
    obtain ⟨_, same⟩ := passed_of_ensure made
    cases same
    exact operandsFit_of_isLiteral rfl
  | binaryOf made =>
    simp only [List.forall_mem_cons, List.not_mem_nil] at fits
    exact binaryOf_operandsFit fits.1 fits.2.1 made
  | prefixedOf made => exact prefixedOf_operandsFit (List.forall_mem_singleton.mp fits) made
  | postfixedOf made => exact postfixedOf_operandsFit (List.forall_mem_singleton.mp fits) made
  | constructOf made => exact constructOf_operandsFit fits made
  | memberOf made =>
    rw [Expr.memberOf] at made
    split at made
    · cases made
      exact operandsFit_of_plain rfl fits
    · cases made
  | callOf made =>
    obtain ⟨_, same⟩ := passed_of_ensure made
    cases same
    exact operandsFit_of_plain rfl fits
  | indexOf made =>
    obtain ⟨_, rest⟩ := passed_of_ensure made
    obtain ⟨_, _, same⟩ := exists_of_bind_ok rest
    cases same
    exact operandsFit_of_plain rfl fits
  | swizzleOf made =>
    obtain ⟨_, rest⟩ := passed_of_ensure made
    obtain ⟨_, more⟩ := passed_of_ensure rest
    obtain ⟨_, _, same⟩ := exists_of_bind_ok more
    cases same
    exact operandsFit_of_plain rfl fits
  | ternaryOf made =>
    obtain ⟨_, rest⟩ := passed_of_ensure made
    obtain ⟨_, same⟩ := passed_of_ensure rest
    cases same
    exact operandsFit_of_plain rfl fits

theorem Made.leaf (made : MadeOf context [] expr) : expr.Made context :=
  .step (List.forall_mem_nil _) made

theorem Made.operandsFit (made : expr.Made context) : expr.OperandsFit := by
  induction made with
  | step _ made inductionHypothesis => exact made.operandsFit inductionHypothesis

/-- What programs are built of is made by the builders. -/
theorem Built.made {types : Ty → Prop} (built : expr.Built context types) :
    expr.Made context := by
  induction built with
  | ofBool span value => exact .leaf (.ofBool span value)
  | ofInt _ made => exact .leaf (.ofInt made)
  | ofPlainInt span value => exact .leaf (.ofPlainInt span value)
  | ofDouble _ made => exact .leaf (.ofDouble made)
  | binaryOf _ _ made leftMade rightMade =>
    exact .step (by simp [leftMade, rightMade]) (.binaryOf made)
  | memberOf _ made baseMade => exact .step (by simp [baseMade]) (.memberOf made)
  | callOf _ _ made argumentsMade => exact .step argumentsMade (.callOf made)
  | ofFunctions span functions => exact .leaf (.ofFunctions span functions)
  | indexOf _ _ made baseMade positionMade =>
    exact .step (by simp [baseMade, positionMade]) (.indexOf made)
  | postfixedOf _ made operandMade => exact .step (by simp [operandMade]) (.postfixedOf made)
  | prefixedOf _ made operandMade => exact .step (by simp [operandMade]) (.prefixedOf made)
  | ofSetting span name => exact .leaf (.ofSetting span name)
  | swizzleOf _ made baseMade => exact .step (by simp [baseMade]) (.swizzleOf made)
  | ternaryOf _ _ _ made testMade trueMade falseMade =>
    exact .step (by simp [testMade, trueMade, falseMade]) (.ternaryOf made)
  | ofType span value => exact .leaf (.ofType span value)
  | ofVariable span target use => exact .leaf (.ofVariable span target use)
  | constructOf _ _ made argumentsMade => exact .step argumentsMade (.constructOf made)

/-! ## The laws -/

/-- What holds of the operands of arithmetic in expressions that are built or decoded. -/
structure OperandLaws (context : Context) : Prop where
  made : ∀ expr : Expr, expr.Made context → expr.OperandsFit
  /-- Whatever a stream holds, what is decoded from it after any other calls is made by builders. -/
  decoded : ∀ store active bytes decoder, Decoder.start store active bytes = .ok (.ok decoder) →
    ∀ calls expr, (Decode.expr context (decoder.afterCalls context calls)).1 = .ok (some expr) →
      expr.Made context
  /-- No array of numbers is turned down by a prefix or postfix operator. -/
  arrays : ∀ (operand : Expr) (op : Operator), operand.type.isArray = true →
    op.worksOn operand.type = true →
      (op.isArithmeticPrefix = true →
        prefixedOf op operand = .ok (.prefixed ⟨operand.span, operand.type⟩ op operand)) ∧
      (op = .increment ∨ op = .decrement →
        postfixedOf operand op = .ok (.postfixed ⟨operand.span, operand.type⟩ operand op))

theorem made_of_decoded {store : Store} {active : TableId} {bytes : Array UInt8}
    {decoder : Decoder} (started : Decoder.start store active bytes = .ok (.ok decoder))
    {calls : List Call}
    (decoded : (Decode.expr context (decoder.afterCalls context calls)).1 = .ok (some expr)) :
    expr.Made context := by
  have sound := ((Origin.ofStore_starts store).sound started).afterCalls context calls
  have right := (sound.outcome context .expr).answer (some expr) decoded
  exact (right.1 expr rfl).made

/-- At every node of every expression that is built or decoded, the operands of arithmetic fit; that
lets arrays of numbers stand at prefix and postfix operators. -/
theorem operands_lawful (context : Context) : OperandLaws context where
  made _ made := made.operandsFit
  decoded _ _ _ _ started _ _ decoded := made_of_decoded started decoded
  arrays operand op _ works := by
    constructor
    · intro arithmetic
      have taken : prefixTakes op operand.type = true := by
        rw [Operator.prefixTakes_eq_worksOn arithmetic]
        exact works
      rw [prefixedOf, taken]
      rfl
    · rintro (rfl | rfl)
      · have number : operand.type.component.isNumber = true := works
        rw [postfixedOf, number]
        rfl
      · have number : operand.type.component.isNumber = true := works
        rw [postfixedOf, number]
        rfl

/-- The variable of `int[2] sides;`. -/
def sides : Variable where
  id := 75
  modifiers := {}
  name := "sides"
  type := .array { id := 74, name := "int[2]" } Builtin.int (.sized 2)
  builtin := false
  storage := .global

/-- A minus takes an array, which is no scalar, vector or matrix, and so do `++` and `--`. -/
theorem negatedArray_made :
    let operand := ofVariable .nowhere sides .read
    let negated := Expr.prefixed ⟨.nowhere, sides.type⟩ .minus operand
    let increased := Expr.postfixed ⟨.nowhere, sides.type⟩ operand .increment
    negated.Made {} ∧ negated.Operand .minus operand ∧ increased.Made {} ∧
      increased.Operand .increment operand ∧ operand.type.isShaped = false := by
  intro operand negated increased
  have known : ∀ part ∈ [operand], part.Made {} :=
    List.forall_mem_singleton.mpr (.leaf (.ofVariable .nowhere sides .read))
  have negatedMade : prefixedOf .minus operand = .ok negated := by rfl
  have increasedMade : postfixedOf operand .increment = .ok increased := by rfl
  exact ⟨.step known (.prefixedOf negatedMade), .prefixed rfl,
    .step known (.postfixedOf increasedMade), .postfixed (Or.inl rfl), rfl⟩

end Expr

end Shading
