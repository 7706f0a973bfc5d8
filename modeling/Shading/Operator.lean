/-!
The operators of the language: their wire bytes, their spelling and the classes that typing asks
about.
-/

namespace Shading

/-- A binary, prefix or postfix operator, in the order of the wire bytes. -/
inductive Operator where
  | plus | minus | star | slash | percent | shiftLeft | shiftRight
  | logicalNot | logicalAnd | logicalOr | logicalXor
  | bitNot | bitAnd | bitOr | bitXor
  | assign
  | equal | notEqual | less | greater | lessEqual | greaterEqual
  | plusAssign | minusAssign | starAssign | slashAssign | percentAssign
  | shiftLeftAssign | shiftRightAssign | bitAndAssign | bitOrAssign | bitXorAssign
  | increment | decrement
  | comma
  deriving DecidableEq, Repr

namespace Operator

/-- Every operator, each at the position of its wire byte. -/
def all : List Operator :=
  [plus, minus, star, slash, percent, shiftLeft, shiftRight,
    logicalNot, logicalAnd, logicalOr, logicalXor,
    bitNot, bitAnd, bitOr, bitXor,
    assign,
    equal, notEqual, less, greater, lessEqual, greaterEqual,
    plusAssign, minusAssign, starAssign, slashAssign, percentAssign,
    shiftLeftAssign, shiftRightAssign, bitAndAssign, bitOrAssign, bitXorAssign,
    increment, decrement,
    comma]

/-- The operator a wire byte stands for. -/
def ofByte? (byte : UInt8) : Option Operator :=
  all[byte.toNat]?

/-- The wire byte of an operator. -/
def toByte (op : Operator) : UInt8 :=
  UInt8.ofNat (all.idxOf op)

theorem ofByte?_toByte (op : Operator) : ofByte? op.toByte = some op := by
  cases op <;> rfl

def symbol : Operator → String
  | plus => "+"
  | minus => "-"
  | star => "*"
  | slash => "/"
  | percent => "%"
  | shiftLeft => "<<"
  | shiftRight => ">>"
  | logicalNot => "!"
  | logicalAnd => "&&"
  | logicalOr => "||"
  | logicalXor => "^^"
  | bitNot => "~"
  | bitAnd => "&"
  | bitOr => "|"
  | bitXor => "^"
  | assign => "="
  | equal => "=="
  | notEqual => "!="
  | less => "<"
  | greater => ">"
  | lessEqual => "<="
  | greaterEqual => ">="
  | plusAssign => "+="
  | minusAssign => "-="
  | starAssign => "*="
  | slashAssign => "/="
  | percentAssign => "%="
  | shiftLeftAssign => "<<="
  | shiftRightAssign => ">>="
  | bitAndAssign => "&="
  | bitOrAssign => "|="
  | bitXorAssign => "^="
  | increment => "++"
  | decrement => "--"
  | comma => ","

def name : Operator → String
  | plus => "Plus"
  | minus => "Minus"
  | star => "Star"
  | slash => "Slash"
  | percent => "Percent"
  | shiftLeft => "Shl"
  | shiftRight => "Shr"
  | logicalNot => "LogicalNot"
  | logicalAnd => "LogicalAnd"
  | logicalOr => "LogicalOr"
  | logicalXor => "LogicalXor"
  | bitNot => "BitwiseNot"
  | bitAnd => "BitwiseAnd"
  | bitOr => "BitwiseOr"
  | bitXor => "BitwiseXor"
  | assign => "Eq"
  | equal => "EqEq"
  | notEqual => "Neq"
  | less => "Lt"
  | greater => "Gt"
  | lessEqual => "LtEq"
  | greaterEqual => "GtEq"
  | plusAssign => "PlusEq"
  | minusAssign => "MinusEq"
  | starAssign => "StarEq"
  | slashAssign => "SlashEq"
  | percentAssign => "PercentEq"
  | shiftLeftAssign => "ShlEq"
  | shiftRightAssign => "ShrEq"
  | bitAndAssign => "BitwiseAndEq"
  | bitOrAssign => "BitwiseOrEq"
  | bitXorAssign => "BitwiseXorEq"
  | increment => "PlusPlus"
  | decrement => "MinusMinus"
  | comma => "Comma"

/-- The operator a compound assignment applies before it assigns. -/
def applied? : Operator → Option Operator
  | plusAssign => some plus
  | minusAssign => some minus
  | starAssign => some star
  | slashAssign => some slash
  | percentAssign => some percent
  | shiftLeftAssign => some shiftLeft
  | shiftRightAssign => some shiftRight
  | bitAndAssign => some bitAnd
  | bitOrAssign => some bitOr
  | bitXorAssign => some bitXor
  | _ => none

/-- `+` for `+=` and so on; every operator that is no compound assignment stays. -/
def withoutAssignment (op : Operator) : Operator :=
  op.applied?.getD op

/-- `=` and every compound assignment. -/
def isAssignment (op : Operator) : Bool :=
  op == assign || op.applied?.isSome

/-- `==` and `!=`. -/
def isEquality (op : Operator) : Bool :=
  op matches equal | notEqual

/-- `<`, `>`, `<=` and `>=`. -/
def isRelational (op : Operator) : Bool :=
  op matches less | greater | lessEqual | greaterEqual

/-- `&&`, `||` and `^^`. -/
def isLogical (op : Operator) : Bool :=
  op matches logicalAnd | logicalOr | logicalXor

/-- The binary operators that take integers only. -/
def isBitwise (op : Operator) : Bool :=
  op matches shiftLeft | shiftRight | bitAnd | bitOr | bitXor | percent

/-- The names of the classes an operator belongs to. -/
def classes (op : Operator) : List String :=
  ([("assignment", op.isAssignment), ("equality", op.isEquality), ("relational", op.isRelational),
    ("logical", op.isLogical), ("bitwise", op.isBitwise)].filter Prod.snd).map Prod.fst

end Operator

instance : ToString Operator := ⟨Operator.symbol⟩

end Shading
