import Shading.Stmt.Text

/-!
The top-level elements of a program, and their source form.
-/

namespace Shading

/-- An enum with its enumerators: constants that its table owns, each declared with its value. -/
structure EnumDefinition where
  name : String
  table : TableId
  declarations : List Declaration
  builtin : Bool
  deriving Repr

/-- The enumerators with an integer value, by name. -/
def EnumDefinition.values (definition : EnumDefinition) : List (String × Int64) :=
  definition.declarations.filterMap fun declaration =>
    (declaration.value?.bind Expr.intLiteral?).map fun value => (declaration.target.name, value)

/-- A function with its body. -/
structure FunctionDefinition where
  /-- The number that the link from the signature holds. -/
  id : Nat
  declaration : Function
  builtin : Bool
  body : Stmt
  /-- The functions that the body calls, each of them once. -/
  referenced : List Function
  deriving Repr

/-- A block of uniforms, inputs or outputs. -/
structure InterfaceBlock where
  target : Variable
  name : String
  /-- Empty for a block whose members are visible by their own names. -/
  instanceName : String
  arraySize : Int32
  table? : Option TableId
  deriving Repr

/-- A top-level element of a program. -/
inductive Element where
  | enum (definition : EnumDefinition)
  | function (definition : FunctionDefinition)
  | interfaceBlock (block : InterfaceBlock)
  | global (declaration : Declaration)
  | struct (type : Ty)
  deriving Repr

/-- The functions of a list without those that came before. -/
def distinctFunctions (functions : List Function) : List Function :=
  functions.foldl
    (fun seen function =>
      if seen.any (·.id == function.id) then seen else seen ++ [function])
    []

namespace Element

/-- Defines a function that was not defined before, and links its signature to the definition. -/
def defineFunction (store : Store) (declaration : Function) (builtin : Bool) (body : Stmt)
    (referenced : List Function) : Except Fault (Element × Store) := do
  let (id, store) := store.fresh
  let store ← store.define declaration id
  let referenced := distinctFunctions referenced
  return (.function { id, declaration, builtin, body, referenced }, store)

/-- Ends what goes with an element: a function loses its definition. -/
def release (store : Store) : Element → Store
  | .function definition => store.release definition.id
  | _ => store

def text : Element → String
  | .enum definition =>
    let values := definition.values.map fun (name, value) => s!"    {name} = {value},\n"
    s!"enum class {definition.name} \x7b\n" ++ String.join values ++ "\x7d;"
  | .function definition => s!"{definition.declaration.text} {definition.body.text}"
  | .interfaceBlock block =>
    let members := block.target.type.component.members.map fun member =>
      s!"    {member.type.displayName} {member.name};\n"
    block.target.modifiers.lead ++ s!"{block.name} \x7b\n" ++ String.join members ++ "\x7d"
      ++ (if block.instanceName = "" then ""
        else s!" {block.instanceName}" ++ bracketed block.arraySize)
      ++ ";"
  | .global declaration => declaration.text
  | .struct type =>
    let members := type.members.map fun member =>
      "    " ++ member.modifiers.lead ++ s!"{member.type.displayName} {member.name};\n"
    s!"struct {type.name} \x7b\n" ++ String.join members ++ "\x7d;"

end Element

end Shading
