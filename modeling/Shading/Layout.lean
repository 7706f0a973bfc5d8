/-!
`layout (...)` qualifiers of a declaration. A number below zero means that the qualifier is not
given; flag bits without a name are kept but not written.
-/

namespace Shading

/-- Whether every bit of `mask` is set in `flags`. -/
def hasBits (flags mask : UInt32) : Bool :=
  flags &&& mask == mask

/-- The words of a flag set in the order of a table of masks. -/
def flagWords (flags : UInt32) (table : List (UInt32 × String)) : List String :=
  (table.filter fun entry => hasBits flags entry.1).map Prod.snd

/-- The geometry primitive a layout names. -/
inductive Primitive where
  | unset | points | lines | linesAdjacency | triangles | trianglesAdjacency
  deriving DecidableEq, Repr

namespace Primitive

/-- The primitive a wire byte stands for. -/
def ofRaw? (raw : Int8) : Option Primitive :=
  if raw = -1 then some unset
  else if raw = 0 then some points
  else if raw = 1 then some lines
  else if raw = 2 then some linesAdjacency
  else if raw = 3 then some triangles
  else if raw = 4 then some trianglesAdjacency
  else none

/-- The wire byte of a primitive. -/
def toRaw : Primitive → Int8
  | unset => -1
  | points => 0
  | lines => 1
  | linesAdjacency => 2
  | triangles => 3
  | trianglesAdjacency => 4

theorem ofRaw?_toRaw (primitive : Primitive) : ofRaw? primitive.toRaw = some primitive := by
  cases primitive <;> decide

/-- The word that names a primitive in source text. -/
def keyword? : Primitive → Option String
  | unset => none
  | points => "points"
  | lines => "lines"
  | linesAdjacency => "lines_adjacency"
  | triangles => "triangles"
  | trianglesAdjacency => "triangles_adjacency"

def name : Primitive → String
  | unset => "Default"
  | points => "Points"
  | lines => "Lines"
  | linesAdjacency => "LinesAdjacency"
  | triangles => "Triangles"
  | trianglesAdjacency => "TrianglesAdjacency"

end Primitive

/-- The host-side type that a uniform is given in glue code. -/
inductive HostType where
  | unset | bool | float | float2 | float3 | float4 | int32 | rect | intRect
  | premultipliedColor4f | premultipliedColor | v4 | point | intPoint | matrix | m44
  | surfaceProxyView | fragmentProcessor
  deriving DecidableEq, Repr

namespace HostType

/-- Every host type, each at the position of its wire byte. -/
def all : List HostType :=
  [unset, bool, float, float2, float3, float4, int32, rect, intRect,
    premultipliedColor4f, premultipliedColor, v4, point, intPoint, matrix, m44,
    surfaceProxyView, fragmentProcessor]

/-- The host type a wire byte stands for. -/
def ofRaw? (raw : Int8) : Option HostType :=
  if raw < 0 then none else all[raw.toInt.toNat]?

/-- The wire byte of a host type. -/
def toRaw (type : HostType) : Int8 :=
  Int8.ofNat (all.idxOf type)

theorem ofRaw?_toRaw (type : HostType) : ofRaw? type.toRaw = some type := by
  cases type <;> decide

def name : HostType → String
  | unset => "Default"
  | bool => "Bool"
  | float => "Float"
  | float2 => "Float2"
  | float3 => "Float3"
  | float4 => "Float4"
  | int32 => "Int32"
  | rect => "Rect"
  | intRect => "IRect"
  | premultipliedColor4f => "PMColor4f"
  | premultipliedColor => "PMColor"
  | v4 => "V4"
  | point => "Point"
  | intPoint => "IPoint"
  | matrix => "Matrix"
  | m44 => "M44"
  | surfaceProxyView => "SurfaceProxyView"
  | fragmentProcessor => "FragmentProcessor"

end HostType

/-- A full set of layout qualifiers. -/
structure Layout where
  flags : UInt32 := 0
  location : Int32 := -1
  offset : Int32 := -1
  binding : Int32 := -1
  index : Int32 := -1
  set : Int32 := -1
  /-- The id of a builtin variable. -/
  builtin : Int32 := -1
  inputAttachmentIndex : Int32 := -1
  primitive : Primitive := .unset
  maxVertices : Int32 := -1
  invocations : Int32 := -1
  /-- The condition under which the declaration is compiled. -/
  when : String := ""
  hostType : HostType := .unset
  deriving DecidableEq, Repr

namespace Layout

/-- The layout without any qualifier. -/
def default : Layout := {}

/-- The layout that only names a builtin variable. -/
def ofBuiltin (builtin : Int32) : Layout := { builtin }

/-- Whether no qualifier is given. -/
def isDefault (layout : Layout) : Bool :=
  layout == default

/-- The masks of the flags and their words, in the order they are written. -/
def flagTable : List (UInt32 × String) :=
  [(1, "origin_upper_left"), (2, "override_coverage"), (4, "push_constant"),
    (8, "blend_support_all_equations"), (16, "srgb_unpremul"), (32, "key"), (64, "tracked")]

/-- A numeric qualifier, unless it is not given. -/
def number (name : String) (value : Int32) : List String :=
  if 0 ≤ value then [s!"{name} = {value}"] else []

/-- The given qualifiers in the order they are written. -/
def parts (layout : Layout) : List String :=
  number "location" layout.location
    ++ number "offset" layout.offset
    ++ number "binding" layout.binding
    ++ number "index" layout.index
    ++ number "set" layout.set
    ++ number "builtin" layout.builtin
    ++ number "input_attachment_index" layout.inputAttachmentIndex
    ++ flagWords layout.flags flagTable
    ++ layout.primitive.keyword?.toList
    ++ number "max_vertices" layout.maxVertices
    ++ number "invocations" layout.invocations
    ++ (if layout.when = "" then [] else [s!"when = {layout.when}"])

/-- A layout in source form; nothing at all without qualifiers. -/
def text (layout : Layout) : String :=
  match layout.parts with
  | [] => ""
  | parts => "layout (" ++ ", ".intercalate parts ++ ")"

end Layout

end Shading
