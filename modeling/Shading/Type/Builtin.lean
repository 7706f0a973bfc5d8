import Shading.Fault
import Shading.Type.Basic

/-!
The builtin types, in the order in which they are made. The id of a builtin type is its place in
that order; ids from `Builtin.count` on are free for the types of programs.
-/

namespace Shading.Builtin

def headOf (id : Nat) (name : String) : Ty.Head := { id, name, builtin := true }

def void : Ty := .void (headOf 0 "void")
def invalid : Ty := .invalid (headOf 1 "$invalid")
def float : Ty := .scalar (headOf 2 "float") .float 10 32
def half : Ty := .scalar (headOf 3 "half") .float 9 16
def floatLiteral : Ty := .literal (headOf 4 "$floatLiteral") float 8
def int : Ty := .scalar (headOf 5 "int") .signed 7 32
def uint : Ty := .scalar (headOf 6 "uint") .unsigned 6 32
def intLiteral : Ty := .literal (headOf 7 "$intLiteral") int 5
def short : Ty := .scalar (headOf 8 "short") .signed 4 16
def ushort : Ty := .scalar (headOf 9 "ushort") .unsigned 3 16
def byte : Ty := .scalar (headOf 10 "byte") .signed 2 8
def ubyte : Ty := .scalar (headOf 11 "ubyte") .unsigned 1 8
def bool : Ty := .scalar (headOf 12 "bool") .boolean 0 1

/-- The types that are neither vectors, matrices, generic types nor handles. -/
def scalars : List Ty :=
  [void, invalid, float, half, floatLiteral, int, uint, intLiteral, short, ushort, byte, ubyte,
    bool]

/-- Makes types of given names, with ids from `first` on. -/
def numbered (first : Nat) (makers : List (Nat → Ty)) : List Ty :=
  (makers.zipIdx first).map fun (make, id) => make id

/-- A vector type, up to its id. -/
def vectorOf (component : Ty) (columns : Nat) (id : Nat) : Ty :=
  .vector (headOf id s!"{component.name}{columns}") component columns

/-- A matrix type, up to its id. -/
def matrixOf (component : Ty) (columns rows : Nat) (id : Nat) : Ty :=
  .matrix (headOf id s!"{component.name}{columns}x{rows}") component columns rows

/-- The vectors of two to four components over each scalar of values. -/
def vectors : List Ty :=
  numbered 13 <|
    [float, half, int, uint, short, ushort, byte, ubyte, bool].flatMap fun component =>
      [2, 3, 4].map (vectorOf component)

/-- The matrices of two to four columns and rows, which exist over the float family only. -/
def matrices : List Ty :=
  numbered 40 <|
    [float, half].flatMap fun component =>
      [2, 3, 4].flatMap fun columns => [2, 3, 4].map (matrixOf component columns)

def valueTypes : List Ty := scalars ++ vectors ++ matrices

/-- A generic type for the value types of the given names, up to its id. -/
def genericOf (name : String) (choices : List String) (id : Nat) : Ty :=
  .generic (headOf id name) (choices.filterMap fun choice => valueTypes.find? (·.name == choice))

def generics : List Ty :=
  numbered 58
    [genericOf "$genType" ["float", "float2", "float3", "float4"],
      genericOf "$genHType" ["half", "half2", "half3", "half4"],
      genericOf "$genIType" ["int", "int2", "int3", "int4"],
      genericOf "$genBType" ["bool", "bool2", "bool3", "bool4"],
      genericOf "$mat" ["float2x2", "float2x3", "float2x4", "float3x2", "float3x3", "float3x4",
        "float4x2", "float4x3", "float4x4"],
      genericOf "$hmat" ["half2x2", "half2x3", "half2x4", "half3x2", "half3x3", "half3x4",
        "half4x2", "half4x3", "half4x4"],
      genericOf "$vec" ["float2", "float3", "float4"],
      genericOf "$hvec" ["half2", "half3", "half4"],
      genericOf "$ivec" ["int2", "int3", "int4"],
      genericOf "$bvec" ["bool2", "bool3", "bool4"]]

/-- A type of handles, up to its id. -/
def handleOf (name : String) (id : Nat) : Ty := .handle (headOf id name)

def handles : List Ty :=
  numbered 68 <|
    ["sampler2D", "texture2D", "sampler", "shader", "colorFilter", "blender"].map handleOf

/-- Every builtin type, each at the place of its id. -/
def all : List Ty := valueTypes ++ generics ++ handles

def count : Nat := 74

theorem length_all : all.length = count := by rfl

def find? (name : String) : Option Ty := all.find? (·.name == name)

/-- The name of the type with the given shape over a scalar. -/
def compoundName (base : Ty) (columns rows : Nat) : String :=
  if columns = 1 ∧ rows = 1 then base.name
  else if rows = 1 then s!"{base.concrete.name}{columns}"
  else s!"{base.concrete.name}{columns}x{rows}"

/-- The vector or matrix of a shape over a scalar, which is the scalar itself for one component. A
literal's type has the compounds of the scalar it stands for. -/
def compound (base : Ty) (columns rows : Nat) : Except Fault Ty := do
  ensure base.isScalar (.notScalar base.name)
  match find? (compoundName base columns rows) with
  | some type => .ok type
  | none => .error (.noCompound columns rows base.name)

end Shading.Builtin
