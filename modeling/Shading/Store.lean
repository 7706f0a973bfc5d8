import Shading.Expr.Basic
import Shading.Text.Quoted
import Shading.Type.Builtin

/-!
Symbol tables and what is attached to symbols. A table owns symbols and binds names, of its own
symbols and of symbols owned elsewhere; a look-up goes on in the parent of a table. The store holds
all tables by number, so that many nodes can share one table and still see it grow. It also holds
the initial values of variables and the definitions of functions, each of which is attached once.
-/

namespace Shading

/-- The number of a symbol table in the store. -/
abbrev TableId := Nat

/-- A symbol table. -/
structure Table where
  parent? : Option TableId := none
  builtin : Bool
  /-- The symbols the table owns, in the order in which it came to own them. -/
  owned : List Symbol := []
  /-- The symbol that each name stands for in this table. -/
  names : List (String × Symbol) := []
  deriving Repr

namespace Table

/-- The symbol that a name stands for in this table. -/
def find? (table : Table) (name : String) : Option Symbol :=
  table.names.lookup name

/-- Lets the name of a symbol stand for it, whatever it stood for before. -/
def bind (table : Table) (symbol : Symbol) : Table :=
  { table with
    names := (symbol.name, symbol) :: table.names.filter fun entry => entry.1 != symbol.name }

/-- Lets the name of a symbol stand for it unless it stands for something already. -/
def bindVacant (table : Table) (symbol : Symbol) : Table :=
  if (table.find? symbol.name).isSome then table else table.bind symbol

/-- Owns a symbol without binding its name. -/
def own (table : Table) (symbol : Symbol) : Table :=
  { table with owned := table.owned ++ [symbol] }

/-- Owns a symbol and binds its name if that is vacant. -/
def adopt (table : Table) (symbol : Symbol) : Table :=
  (table.own symbol).bindVacant symbol

/-- Whether a table owns this very symbol. -/
def owns (table : Table) (symbol : Symbol) : Bool :=
  table.owned.any (·.same symbol)

/-- The overloads that a symbol joins in this table: those its name stands for, if both are
functions. -/
def joined? (table : Table) (symbol : Symbol) : Option (Function × List Function) :=
  match symbol, table.find? symbol.name with
  | .function added, some (.function bound) => some (bound, [added])
  | .function added, some (.overloads set) => some (set.first, set.others ++ [added])
  | _, _ => none

end Table

/-- The link from a signature to its definition. -/
structure DefinitionLink where
  definition : Nat
  /-- Whether the program element that holds the definition still exists. -/
  alive : Bool
  deriving DecidableEq, Repr

/-- All tables, and what is attached to symbols. -/
structure Store where
  /-- The least id that no symbol has. -/
  nextId : Nat := Builtin.count
  tables : Array Table := #[]
  /-- The initial values, by the id of their variables. -/
  initials : List (Nat × Expr) := []
  /-- The definitions, by the id of their functions. -/
  definitions : List (Nat × DefinitionLink) := []
  deriving Repr

namespace Store

/-! ## Tables -/

def fresh (store : Store) : Nat × Store :=
  (store.nextId, { store with nextId := store.nextId + 1 })

def update (store : Store) (id : TableId) (change : Table → Table) : Store :=
  { store with tables := store.tables.modify id change }

/-- A new table without symbols. -/
def newTable (store : Store) (parent? : Option TableId) (builtin : Bool) : TableId × Store :=
  (store.tables.size, { store with tables := store.tables.push { parent?, builtin } })

/-- A new builtin table in which every builtin type stands under its name. -/
def newRoot (store : Store) : TableId × Store :=
  let (id, store) := store.newTable none true
  (id, store.update id fun table => Builtin.all.foldl (fun t type => t.bind (.type type)) table)

/-- Whether a table is builtin. -/
def isBuiltin (store : Store) (id : TableId) : Bool :=
  (store.tables[id]?.map Table.builtin).getD false

def owned (store : Store) (id : TableId) : List Symbol :=
  (store.tables[id]?.map Table.owned).getD []

/-- Whether a table owns this very symbol. -/
def owns (store : Store) (id : TableId) (symbol : Symbol) : Bool :=
  (store.owned id).any (·.same symbol)

/-- The symbol that a name stands for in one table. -/
def findLocal? (store : Store) (id : TableId) (name : String) : Option Symbol :=
  store.tables[id]?.bind (·.find? name)

/-- The symbol that a name stands for in a table or in the nearest ancestor that binds it. A parent
is always older than its children. -/
def find? (store : Store) (id : TableId) (name : String) : Option Symbol :=
  match store.tables[id]? with
  | none => none
  | some table =>
    match table.find? name with
    | some symbol => some symbol
    | none =>
      match table.parent? with
      | some parent => if parent < id then store.find? parent name else none
      | none => none
termination_by id

/-- Lets the name of a symbol stand for it in a table that does not own it. -/
def bind (store : Store) (id : TableId) (symbol : Symbol) : Store :=
  store.update id (·.bind symbol)

/-- Lets a table own a symbol and binds its name if that is vacant there. -/
def adopt (store : Store) (id : TableId) (symbol : Symbol) : Store :=
  store.update id (·.adopt symbol)

/-- Lets a table own a symbol and binds its name. A function whose name stands for functions joins
them in a new overload set, which the table owns as well. -/
def add (store : Store) (id : TableId) (symbol : Symbol) : Store :=
  match store.tables[id]?.bind (·.joined? symbol) with
  | none => store.update id fun table => (table.own symbol).bind symbol
  | some (first, others) =>
    let (setId, store) := store.fresh
    let set := Symbol.overloads { id := setId, first, others }
    store.update id fun table => ((table.own symbol).own set).bind set

/-- A table in one line: its kind, the number of its symbols and the names it binds, sorted. -/
def summary (store : Store) (id : TableId) : String :=
  match store.tables[id]? with
  | none => ""
  | some table =>
    let names := (table.names.map Prod.fst).mergeSort fun left right => !(right < left)
    s!"SymbolTable \x7b builtin: {table.builtin}, has_parent: {table.parent?.isSome}, "
      ++ s!"owned: {table.owned.length}, names: ["
      ++ ", ".intercalate (names.map Quoted.quote) ++ "] \x7d"

/-! ## Initial values and definitions -/

/-- The initial value of a variable, if it has one. -/
def initial? (store : Store) (target : Variable) : Option Expr :=
  store.initials.lookup target.id

/-- Attaches an initial value to a variable that has none. -/
def attachInitial (store : Store) (target : Variable) (value : Expr) : Except Fault Store :=
  match store.initial? target with
  | some _ => .error (.initialValueTwice target.name)
  | none => .ok { store with initials := (target.id, value) :: store.initials }

/-- The definition of a function while it exists. -/
def definition? (store : Store) (function : Function) : Option Nat :=
  match store.definitions.lookup function.id with
  | some link => if link.alive then some link.definition else none
  | none => none

/-- Attaches a definition to a function that was never defined. -/
def define (store : Store) (function : Function) (definition : Nat) : Except Fault Store :=
  match store.definitions.lookup function.id with
  | some _ => .error (.definedTwice function.name)
  | none =>
    .ok { store with
      definitions := (function.id, { definition, alive := true }) :: store.definitions }

/-- Ends a definition. The function it belonged to still counts as defined once. -/
def release (store : Store) (definition : Nat) : Store :=
  { store with
    definitions := store.definitions.map fun (function, link) =>
      (function, if link.definition = definition then { link with alive := false } else link) }

/-! ## Types in tables -/

/-- A copy of a type of a program, under a new id. -/
def copyType (store : Store) (type : Ty) : Except Fault (Ty × Store) :=
  let (id, store) := store.fresh
  match type with
  | .array head component size => .ok (.array { id, name := head.name } component size, store)
  | .struct head members =>
    .ok (.struct { id, name := head.name, span := head.span } members, store)
  | .enum head => .ok (.enum { id, name := head.name }, store)
  | _ => .error (.uncopiable type.name)

/-- Makes a type available in a table. Builtin types are available everywhere; a visible type of
the same name and class is taken as it is, and otherwise the table owns a copy. -/
def importType (store : Store) (type : Ty) (id : TableId) : Except Fault (Ty × Store) :=
  if type.isBuiltin then .ok (type, store)
  else
    match store.find? id type.name with
    | some (.type visible) =>
      if visible.typeClass = type.typeClass then .ok (visible, store)
      else .error (.boundToOtherClass type.name visible.typeClass type.typeClass)
    | some _ => .error (.boundToNonType type.name)
    | none => do
      let (copy, store) ← store.copyType type
      return (copy, store.add id (.type copy))

end Store

end Shading
