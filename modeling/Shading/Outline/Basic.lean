import Shading.Store

/-!
Outlines: a program as a flat list of its nodes, each before its children and one level less deep
than they are. Tools read an outline where the source form of a program leaves out too much.
-/

namespace Shading

/-- One node of an outline. -/
structure OutlineRow where
  depth : Nat
  /-- What the node is. -/
  kind : String
  /-- What the node says beside its children. -/
  detail : String := ""
  /-- The type that an expression has or that a declaration starts from. -/
  type? : Option String := none
  span? : Option Span := none
  deriving DecidableEq, Repr

/-- The row for a part that is left out. -/
def OutlineRow.absent (depth : Nat) : OutlineRow :=
  { depth, kind := "Void" }

namespace Store

def parent? (store : Store) (id : TableId) : Option TableId :=
  store.tables[id]?.bind Table.parent?

/-- Whether the name of a symbol stands for this very symbol in a table. -/
def binds (store : Store) (id : TableId) (symbol : Symbol) : Bool :=
  ((store.findLocal? id symbol.name).map symbol.same).getD false

/-- The symbols that a table owns, in one line. A symbol whose name stands for something else has
`!` before it, and a table below another has `^` before it. -/
def digest (store : Store) : Option TableId → String
  | none => "-"
  | some id =>
    let entries := (store.owned id).map fun symbol =>
      (if store.binds id symbol then "" else "!") ++ s!"{symbol.name}:{symbol.kind}"
    (if (store.parent? id).isSome then "^[" else "[") ++ ", ".intercalate entries ++ "]"

end Store

end Shading
