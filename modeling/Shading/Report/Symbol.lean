import Shading.Expr.Text
import Shading.Outline.Basic
import Shading.Report.Type

/-!
Reports on symbols and symbol tables.
-/

namespace Shading

namespace Symbol

/-- What a report says about a symbol of one kind only. -/
def particulars (store : Store) : Symbol → List (String × Report)
  | type t =>
    [("class", t.typeClass.name), ("builtin", t.isBuiltin), ("span", t.span.text),
      ("shape", t.shape)]
  | var v =>
    [("type", v.type.name), ("storage", v.storage.name), ("builtin", v.builtin),
      ("span", v.span.text), ("modifiers", v.modifiers.report),
      ("init", .ofOption (fun value => .text value.text) (store.initial? v))]
  | function f =>
    [("returns", f.returnType.name), ("builtin", f.builtin), ("span", f.span.text),
      ("parameters", .texts (f.parameters.map fun parameter => parameter.type.name)),
      ("modifiers", f.modifiers.report), ("defined", (store.definition? f).isSome)]
  | overloads set => [("functions", .texts (set.functions.map Function.text))]
  | member field =>
    [("owner", field.owner.name), ("index", .number field.index.val),
      ("type", field.member.type.name), ("span", field.span.text)]
  | synonym _ span _ target =>
    [("target", .texts [target.kind, target.name]), ("span", span.text)]

def fields (store : Store) (symbol : Symbol) : List (String × Report) :=
  ("kind", .text symbol.kind) :: ("name", .text symbol.name) :: ("text", .text symbol.text)
    :: symbol.particulars store

/-- All that is known about a symbol, with what the store attaches to it. -/
def report (store : Store) (symbol : Symbol) : Report :=
  .record (symbol.fields store)

end Symbol

/-- A symbol table with the symbols that it owns, and whether their names stand for them. -/
def Store.report (store : Store) (id : TableId) : Report :=
  let owned := store.owned id
  .record
    [("builtin", store.isBuiltin id), ("parent", (store.parent? id).isSome),
      ("count", .number owned.length),
      ("owned", .list (owned.map fun symbol =>
        .record (("bound", .flag (store.binds id symbol)) :: symbol.fields store)))]

end Shading
