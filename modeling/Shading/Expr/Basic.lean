import Shading.Expr.Flavour
import Shading.Number.Double
import Shading.Operator
import Shading.Symbol.Basic

/-!
Typed expressions. Every node carries its type and its place in the source.
-/

namespace Shading

/-- How a member access reaches the struct. -/
inductive MemberOwner where
  | named
  /-- A member of an interface block without a name, written without the block. -/
  | anonymousBlock
  deriving DecidableEq, Repr

/-- The owner that a wire byte stands for. -/
def MemberOwner.ofRaw? (raw : UInt8) : Option MemberOwner :=
  [named, anonymousBlock][raw.toNat]?

def MemberOwner.name : MemberOwner → String
  | named => "Default"
  | anonymousBlock => "AnonymousInterfaceBlock"

/-- How an expression uses a variable. -/
inductive RefKind where
  | read | write | readWrite
  /-- Handed on by reference, as an `out` argument is. -/
  | pointer
  deriving DecidableEq, Repr

/-- The use that a wire byte stands for. -/
def RefKind.ofRaw? (raw : UInt8) : Option RefKind :=
  [read, write, readWrite, pointer][raw.toNat]?

def RefKind.name : RefKind → String
  | read => "Read"
  | write => "Write"
  | readWrite => "ReadWrite"
  | pointer => "Pointer"

/-- One component of a swizzle: a component of the operand or a constant. -/
inductive Lane where
  | x | y | z | w | zero | one
  deriving DecidableEq, Repr

/-- The component that a wire byte stands for. -/
def Lane.ofRaw? (raw : UInt8) : Option Lane :=
  [x, y, z, w, zero, one][raw.toNat]?

def Lane.letter : Lane → Char
  | x => 'x'
  | y => 'y'
  | z => 'z'
  | w => 'w'
  | zero => '0'
  | one => '1'

def Lane.name : Lane → String
  | x => "X"
  | y => "Y"
  | z => "Z"
  | w => "W"
  | zero => "Zero"
  | one => "One"

/-- The component that a letter stands for. -/
def Lane.ofLetter? (letter : Char) : Option Lane :=
  [x, y, z, w, zero, one].find? fun lane => lane.letter == letter

/-- What every expression has. -/
structure Expr.Info where
  span : Span
  type : Ty
  deriving Repr

/-- A typed expression. -/
inductive Expr where
  | binary (info : Expr.Info) (left : Expr) (op : Operator) (right : Expr)
  | boolLiteral (info : Expr.Info) (value : Bool)
  | intLiteral (info : Expr.Info) (value : Int64)
  | floatLiteral (info : Expr.Info) (value : Double)
  | construct (info : Expr.Info) (flavour : Flavour) (arguments : List Expr)
  | member (info : Expr.Info) (base : Expr) (index : Nat) (owner : MemberOwner)
  | call (info : Expr.Info) (function : Function) (arguments : List Expr)
  /-- A function that is named but not called. -/
  | functionName (info : Expr.Info) (functions : List Function)
  | index (info : Expr.Info) (base position : Expr)
  | postfixed (info : Expr.Info) (operand : Expr) (op : Operator)
  | prefixed (info : Expr.Info) (op : Operator) (operand : Expr)
  /-- A capability of the target that is not known yet. -/
  | setting (info : Expr.Info) (name : String)
  | swizzle (info : Expr.Info) (base : Expr) (lanes : List Lane)
  | ternary (info : Expr.Info) (test whenTrue whenFalse : Expr)
  /-- A type that is named as if it were a value. -/
  | typeName (info : Expr.Info) (value : Ty)
  | reference (info : Expr.Info) (target : Variable) (use : RefKind)
  deriving Repr

namespace Expr

def info : Expr → Info
  | binary i _ _ _ | boolLiteral i _ | intLiteral i _ | floatLiteral i _ | construct i _ _
  | member i _ _ _ | call i _ _ | functionName i _ | index i _ _ | postfixed i _ _
  | prefixed i _ _ | setting i _ | swizzle i _ _ | ternary i _ _ _ | typeName i _
  | reference i _ _ => i

def type (expr : Expr) : Ty := expr.info.type

def span (expr : Expr) : Span := expr.info.span

/-- Whether an expression is a single bool, int or float literal. -/
def isLiteral (expr : Expr) : Bool :=
  expr matches boolLiteral .. | intLiteral .. | floatLiteral ..

def intLiteral? : Expr → Option Int64
  | intLiteral _ value => some value
  | _ => none

end Expr

end Shading
