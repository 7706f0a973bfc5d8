/-!
The plain enumerations behind types: classes of types, arithmetic families of scalars and element
counts of arrays.
-/

namespace Shading

/-- The class of a type, without what the class carries. -/
inductive TypeClass where
  | void | invalid | other | scalar | literal | vector | matrix | array | struct | enum | generic
  deriving DecidableEq, Repr

/-- The word for a class in listings and messages. -/
def TypeClass.name : TypeClass → String
  | void => "Void"
  | invalid => "Invalid"
  | other => "Other"
  | scalar => "Scalar"
  | literal => "Literal"
  | vector => "Vector"
  | matrix => "Matrix"
  | array => "Array"
  | struct => "Struct"
  | enum => "Enum"
  | generic => "Generic"

/-- The arithmetic family of a scalar; every other type is non-numeric. -/
inductive NumberKind where
  | float | signed | unsigned | boolean | nonNumeric
  deriving DecidableEq, Repr

def NumberKind.name : NumberKind → String
  | float => "Float"
  | signed => "Signed"
  | unsigned => "Unsigned"
  | boolean => "Boolean"
  | nonNumeric => "NonNumeric"

/-- The element count of an array type. -/
inductive ArraySize where
  | sized (count : UInt32)
  | unsized
  deriving DecidableEq, Repr

namespace ArraySize

/-- A negative count on the wire means an array without a size. -/
def ofRaw (raw : Int32) : ArraySize :=
  if raw < 0 then unsized else sized raw.toUInt32

/-- The element count, if there is one. -/
def count? : ArraySize → Option UInt32
  | sized count => some count
  | unsized => none

/-- What stands between the brackets of an array type's name. -/
def text : ArraySize → String
  | sized count => toString count
  | unsized => ""

def name : ArraySize → String
  | sized count => s!"Sized({count})"
  | unsized => "Unsized"

end ArraySize

end Shading
