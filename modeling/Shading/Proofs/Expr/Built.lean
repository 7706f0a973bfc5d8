import Shading.Element
import Shading.Expr.Construct
import Shading.Proofs.Stepping

/-!
What the builders can build. `Expr.Built` has one constructor for each way to build an expression
from built ones, over the types that are written into programs; `Stmt.Built` and `Element.Built` go
on with statements and elements. A property of everything built needs one lemma for each builder.
-/

namespace Shading

/-- An expression that the builders made, where the types that a program names are of a family. -/
inductive Expr.Built (context : Context) (types : Ty → Prop) : Expr → Prop where
  | ofBool (span : Span) (value : Bool) : Built context types (ofBool span value)
  | ofInt {span : Span} {value : Int64} {type : Ty} {expr : Expr} (known : types type)
      (made : ofInt span value type = .ok expr) : Built context types expr
  | ofPlainInt (span : Span) (value : Int64) : Built context types (ofPlainInt span value)
  | ofDouble {span : Span} {value : Double} {type : Ty} {expr : Expr} (known : types type)
      (made : ofDouble span value type = .ok expr) : Built context types expr
  | binaryOf {left right : Expr} {op : Operator} {expr : Expr}
      (leftBuilt : Built context types left) (rightBuilt : Built context types right)
      (made : binaryOf context left op right = .ok expr) : Built context types expr
  | memberOf {base : Expr} {position : Nat} {owner : MemberOwner} {expr : Expr}
      (baseBuilt : Built context types base) (made : memberOf base position owner = .ok expr) :
      Built context types expr
  | callOf {span : Span} {type : Ty} {function : Function} {arguments : List Expr} {expr : Expr}
      (known : types type) (argumentsBuilt : ∀ argument ∈ arguments, Built context types argument)
      (made : callOf span type function arguments = .ok expr) : Built context types expr
  | ofFunctions (span : Span) (functions : List Function) :
      Built context types (ofFunctions span functions)
  | indexOf {base position : Expr} {expr : Expr} (baseBuilt : Built context types base)
      (positionBuilt : Built context types position) (made : indexOf base position = .ok expr) :
      Built context types expr
  | postfixedOf {operand : Expr} {op : Operator} {expr : Expr}
      (operandBuilt : Built context types operand) (made : postfixedOf operand op = .ok expr) :
      Built context types expr
  | prefixedOf {op : Operator} {operand : Expr} {expr : Expr}
      (operandBuilt : Built context types operand) (made : prefixedOf op operand = .ok expr) :
      Built context types expr
  | ofSetting (span : Span) (name : String) : Built context types (ofSetting context span name)
  | swizzleOf {base : Expr} {lanes : List Lane} {expr : Expr} (baseBuilt : Built context types base)
      (made : swizzleOf base lanes = .ok expr) : Built context types expr
  | ternaryOf {test whenTrue whenFalse : Expr} {expr : Expr} (testBuilt : Built context types test)
      (trueBuilt : Built context types whenTrue) (falseBuilt : Built context types whenFalse)
      (made : ternaryOf test whenTrue whenFalse = .ok expr) : Built context types expr
  | ofType (span : Span) (value : Ty) : Built context types (ofType span value)
  | ofVariable (span : Span) (target : Variable) (use : RefKind) :
      Built context types (ofVariable span target use)
  | constructOf {span : Span} {flavour : Flavour} {type : Ty} {arguments : List Expr} {expr : Expr}
      (known : types type) (argumentsBuilt : ∀ argument ∈ arguments, Built context types argument)
      (made : constructOf span flavour type arguments = .ok expr) : Built context types expr

def Declaration.Built (context : Context) (types : Ty → Prop) (declaration : Declaration) : Prop :=
  ∀ value ∈ declaration.value?, value.Built context types

/-- A statement of built expressions. -/
inductive Stmt.Built (context : Context) (types : Ty → Prop) : Stmt → Prop where
  | block {statements : List Stmt} {table? : Option TableId} {braces : Bool}
      (statementsBuilt : ∀ statement ∈ statements, Built context types statement) :
      Built context types (.block statements table? braces)
  | breakLoop : Built context types .breakLoop
  | continueLoop : Built context types .continueLoop
  | discard : Built context types .discard
  | doLoopOf {body : Stmt} {test : Expr} {statement : Stmt} (bodyBuilt : Built context types body)
      (testBuilt : test.Built context types) (made : doLoopOf body test = .ok statement) :
      Built context types statement
  | evaluate {value : Expr} (valueBuilt : value.Built context types) :
      Built context types (.evaluate value)
  | forLoopOf {initializer : Option Stmt} {test next : Option Expr} {body : Stmt}
      {table? : Option TableId} {statement : Stmt}
      (initializerBuilt : ∀ first ∈ initializer, Built context types first)
      (testBuilt : ∀ value ∈ test, value.Built context types)
      (nextBuilt : ∀ value ∈ next, value.Built context types)
      (bodyBuilt : Built context types body)
      (made : forLoopOf initializer test next body table? = .ok statement) :
      Built context types statement
  | ifElseOf {isStatic : Bool} {test : Expr} {whenTrue : Stmt} {whenFalse : Option Stmt}
      {statement : Stmt} (testBuilt : test.Built context types)
      (trueBuilt : Built context types whenTrue)
      (falseBuilt : ∀ other ∈ whenFalse, Built context types other)
      (made : ifElseOf isStatic test whenTrue whenFalse = .ok statement) :
      Built context types statement
  | inlined (function : Function) : Built context types (.inlined function)
  | returnValue {value? : Option Expr} (valueBuilt : ∀ value ∈ value?, value.Built context types) :
      Built context types (.returnValue value?)
  | switchOf {isStatic : Bool} {value : Expr} {cases : List SwitchCase} {table? : Option TableId}
      {statement : Stmt} (valueBuilt : value.Built context types)
      (labelsBuilt : ∀ entry ∈ cases, ∀ label ∈ entry.value?, label.Built context types)
      (bodiesBuilt : ∀ entry ∈ cases, Built context types entry.body)
      (made : switchOf isStatic value cases table? = .ok statement) :
      Built context types statement
  | declare {declaration : Declaration} (declarationBuilt : declaration.Built context types) :
      Built context types (.declare declaration)

theorem Stmt.Built.declaration {context : Context} {types : Ty → Prop} {declaration : Declaration}
    (built : Stmt.Built context types (.declare declaration)) :
    declaration.Built context types := by
  cases built with
  | declare declarationBuilt => exact declarationBuilt
  | doLoopOf _ _ made =>
    obtain ⟨_, _, same⟩ := Stepping.exists_of_bind_ok made
    cases same
  | @forLoopOf _ test _ _ _ _ _ _ _ _ made =>
    cases test with
    | none => cases made
    | some test =>
      obtain ⟨_, _, same⟩ := Stepping.exists_of_bind_ok made
      cases same
  | ifElseOf _ _ _ made =>
    obtain ⟨_, _, same⟩ := Stepping.exists_of_bind_ok made
    cases same
  | switchOf _ _ _ made =>
    obtain ⟨_, _, same⟩ := Stepping.exists_of_bind_ok made
    cases same

/-- An element of built declarations and statements. -/
inductive Element.Built (context : Context) (types : Ty → Prop) : Element → Prop where
  | enum {definition : EnumDefinition}
      (declarationsBuilt : ∀ declaration ∈ definition.declarations,
        declaration.Built context types) : Built context types (.enum definition)
  | function {definition : FunctionDefinition} (bodyBuilt : definition.body.Built context types) :
      Built context types (.function definition)
  | interfaceBlock (block : InterfaceBlock) : Built context types (.interfaceBlock block)
  | global {declaration : Declaration} (declarationBuilt : declaration.Built context types) :
      Built context types (.global declaration)
  | struct {type : Ty} (known : types type) : Built context types (.struct type)

end Shading
