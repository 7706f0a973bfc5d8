import Shading.Decode.Element
import Shading.Outline.Stmt
import Shading.Report.Symbol

/-!
Reports on expressions, statements, program elements and whole programs. Each holds the source form
and the outline; a brief report leaves the outline out.
-/

namespace Shading

/-- A row of an outline. -/
def OutlineRow.report (row : OutlineRow) : Report :=
  .list
    [.number row.depth, row.kind, row.detail, .ofOption .text row.type?,
      .ofOption (fun span => .text span.text) row.span?]

/-- An outline, unless the report is a brief one. -/
def outlineReport (brief : Bool) (rows : List OutlineRow) : Report :=
  .list (if brief then [] else rows.map OutlineRow.report)

/-- An expression with its type and, for a literal, its value. -/
def Expr.report (brief : Bool) (expr : Expr) : Report :=
  .record
    [("text", expr.text), ("type", expr.type.name), ("literal", expr.isLiteral),
      ("int", .ofOption (fun value => .number value.toInt) expr.intLiteral?),
      ("nodes", outlineReport brief (expr.outline 0))]

def Stmt.report (brief : Bool) (store : Store) (stmt : Stmt) : Report :=
  .record
    [("text", stmt.text), ("empty", stmt.isEmpty),
      ("nodes", outlineReport brief (stmt.outline store 0))]

namespace Element

/-- What a report says about an element of one kind only. -/
def particulars (store : Store) : Element → Report
  | enum definition =>
    .list
      [definition.name, definition.builtin,
        .list (definition.values.map fun (name, value) => .list [name, .number value.toInt]),
        store.report definition.table]
  | function definition =>
    .list
      [definition.declaration.text, definition.builtin,
        store.definition? definition.declaration == some definition.id,
        .texts (definition.referenced.map Function.text)]
  | interfaceBlock block =>
    .list
      [block.target.name, block.name, block.instanceName, .number block.arraySize.toInt,
        block.table?.isSome]
  | global declaration => declaration.target.name
  | struct type => type.shape

def report (brief : Bool) (store : Store) (element : Element) : Report :=
  .record
    [("kind", element.kind), ("extra", element.particulars store), ("text", element.text),
      ("nodes", outlineReport brief (element.outline store))]

end Element

/-- A program: its listing, its symbols and its elements. The table that decoding started from is
named so that the report can tell whether the program's table is below it. -/
def Program.report (brief : Bool) (store : Store) (start : TableId) (program : Program) : Report :=
  .record
    [("listing", program.listing store), ("symbols", .ofOption store.report program.table?),
      ("elements", .list (program.elements.map (Element.report brief store))),
      ("inherits", .ofOption (fun id => .flag (store.parent? id == some start)) program.table?),
      ("start", store.report start)]

end Shading
