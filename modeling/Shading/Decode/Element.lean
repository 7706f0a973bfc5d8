import Shading.Decode.Stmt
import Shading.Element

/-!
Decoding program elements and whole blobs. A blob holds the symbol table of its program and then
the list of its elements.
-/

namespace Shading

namespace Decode

/-- The declaration of an enumerator: its variable and its value. -/
def enumerator (enumName : String) (symbol : Symbol) : Decode Declaration := do
  match symbol with
  | .var target =>
    let value := Expr.ofPlainInt .nowhere (← next .s32).toInt64
    let (declaration, store) ←
      Declaration.make (← get).store target target.type 0 (some value)
    changeStore fun _ => store
    return declaration
  | other => throw (.enumOwns enumName other.kind other.name)

/-- An enum after its tag: its table, and then a value for every symbol that the table owns. -/
def enumElement : Decode Element := do
  let name ← next .string
  match ← table false with
  | none => throw (.enumWithoutTable name)
  | some id =>
    let declarations ← ((← get).store.owned id).mapM (enumerator name)
    return .enum { name, table := id, declarations, builtin := true }

/-- A function definition after its tag. -/
def functionElement (context : Context) : Decode Element := do
  let declaration ← function
  let body ← present "function body" (stmt context)
  let count ← next .u8
  let referenced ← times count.toNat function
  let (element, store) ←
    Element.defineFunction (← get).store declaration true body referenced
  changeStore fun _ => store
  return element

/-- An interface block after its tag. -/
def interfaceElement : Decode Element := do
  let target ← targetVariable
  let name ← next .string
  let instanceName ← next .string
  let arraySize := (← next .s8).toInt32
  return .interfaceBlock { target, name, instanceName, arraySize, table? := none }

/-- A global variable after its tag: a statement that has to be a declaration. -/
def globalElement (context : Context) : Decode Element := do
  match ← stmt context with
  | some (.declare declaration) => return .global declaration
  | some other => throw (.globalHolds other.text)
  | none => throw .globalEmpty

/-- The next element, or none at the end of the list. -/
def element (context : Context) : Decode (Option Element) := do
  match ← next .command with
  | .enumElement => return some (← enumElement)
  | .functionElement => return some (← functionElement context)
  | .interfaceElement => return some (← interfaceElement)
  | .globalDeclaration => return some (← globalElement context)
  | .structElement => return some (.struct (← type))
  | .elementsEnd => return none
  | other => throw (.unexpected "a program element" other)

/-- Runs a step that holds on to an element. If the step faults, the element is gone. -/
def holding {α : Type} (element : Element) (step : Decode α) : Decode α := fun decoder =>
  match step decoder with
  | (.ok value, after) => (.ok value, after)
  | (.error fault, after) => (.error fault, { after with store := element.release after.store })

/-- Fewer than `bound` elements up to the end of their list. -/
def elementsWithin (context : Context) : Nat → Decode (List Element)
  | 0 => throw .nestingBound
  | bound + 1 => do
    match ← element context with
    | none => return []
    | some first => return first :: (← holding first (elementsWithin context bound))

def elements (context : Context) : Decode (List Element) := do
  match ← next .command with
  | .elements => elementsWithin context (← nesting)
  | other => throw (.unexpected "an element list" other)

end Decode

/-- What a blob holds. -/
structure Program where
  /-- The symbol table of the program, below the table that decoding started from. -/
  table? : Option TableId
  elements : List Element
  deriving Repr

/-- Decodes a blob. The elements are decoded with the starting table active again. -/
def Decode.program (context : Context) : Decode Program := do
  let table? ← table true
  let elements ← elements context
  return { table?, elements }

/-- Decodes a blob below a builtin table of a store: its program, with the session as it ends. -/
def Program.ofBlob (context : Context) (store : Store) (builtin : TableId) (bytes : Array UInt8) :
    Except Fault (Except HeaderFault (Program × Decoder)) :=
  match Decoder.start store builtin bytes with
  | .error fault => .error fault
  | .ok (.error header) => .ok (.error header)
  | .ok (.ok decoder) =>
    match Decode.program context decoder with
    | (.error fault, _) => .error fault
    | (.ok program, after) => .ok (.ok (program, after))

/-- The text of a program: the symbols that its table owns, and then its elements. -/
def Program.listing (program : Program) (store : Store) : String :=
  let symbols := (program.table?.map store.owned).getD []
  let symbolLines := symbols.map fun symbol => s!"{symbol.kind}: {symbol.text}\n"
  let elementLines := program.elements.map fun element => element.text ++ "\n"
  s!"// {symbols.length} symbols\n" ++ String.join symbolLines
    ++ s!"// {program.elements.length} elements\n" ++ String.join elementLines

/-- What comes of a blob: the listing of its program, or what keeps it from being decoded. -/
def Program.outcome (context : Context) (store : Store) (builtin : TableId) (bytes : Array UInt8) :
    Except Fault (Except HeaderFault String) :=
  match ofBlob context store builtin bytes with
  | .error fault => .error fault
  | .ok (.error header) => .ok (.error header)
  | .ok (.ok (program, after)) => .ok (.ok (program.listing after.store))

end Shading
