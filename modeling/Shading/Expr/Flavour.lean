/-!
The flavours of constructor calls.
-/

namespace Shading

/-- How a constructor call builds its value from its arguments. -/
inductive Flavour where
  /-- An array from its elements. -/
  | array
  /-- A vector or matrix from smaller pieces. -/
  | compound
  /-- A vector or matrix converted component by component. -/
  | compoundCast
  /-- A matrix with a scalar on the diagonal and zero elsewhere. -/
  | diagonalMatrix
  /-- A matrix cut or filled up to another shape. -/
  | matrixResize
  /-- A scalar converted to another scalar type. -/
  | scalarCast
  /-- A vector with every component set to one scalar. -/
  | splat
  /-- A struct from its members. -/
  | struct
  deriving DecidableEq, Repr

def Flavour.name : Flavour → String
  | array => "Array"
  | compound => "Compound"
  | compoundCast => "CompoundCast"
  | diagonalMatrix => "DiagonalMatrix"
  | matrixResize => "MatrixResize"
  | scalarCast => "ScalarCast"
  | splat => "Splat"
  | struct => "Struct"

end Shading
