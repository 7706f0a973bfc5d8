import Shading.Diagnostic.Basic
import Shading.Fault
import Shading.Operator

/-!
Reports: what a tool is told about a value, as a tree of named parts. A report says more than the
source form of a value does, and it says it in parts that need no parsing.
-/

namespace Shading

/-- A report on a value. -/
inductive Report where
  /-- There is nothing to report. -/
  | absent
  | flag (value : Bool)
  | number (value : Int)
  | text (value : String)
  /-- The question cannot be asked of this value. -/
  | fault (fault : Fault)
  | list (items : List Report)
  | record (fields : List (String × Report))
  deriving Repr

namespace Report

instance : Coe Bool Report := ⟨.flag⟩

instance : Coe String Report := ⟨.text⟩

def texts (values : List String) : Report :=
  .list (values.map .text)

/-- A report on a value, if there is one. -/
def ofOption {α : Type} (report : α → Report) : Option α → Report
  | some value => report value
  | none => .absent

/-- A report on the answer to a question that cannot be asked of every value. -/
def ofAnswer {α : Type} (report : α → Report) : Except Fault α → Report
  | .ok value => report value
  | .error cause => .fault cause

end Report

/-- The text of a range of source, and its measures. -/
def Span.report (span : Span) : Report :=
  .record
    [("text", span.text), ("none", span.isNowhere),
      ("len", .ofAnswer (fun length => .number length.toNat) span.length),
      ("empty", .ofAnswer .flag span.isEmpty)]

/-- The names of an operator and the classes it belongs to. -/
def Operator.report (op : Operator) : Report :=
  .record
    [("name", op.name), ("byte", .number op.toByte.toNat), ("symbol", op.symbol),
      ("removed", op.withoutAssignment.symbol), ("is", .texts op.classes)]

/-- The parts of a diagnostic, and how it is shown to the user. -/
def Diagnostic.report (diagnostic : Diagnostic) : Report :=
  .record
    [("code", diagnostic.code.text), ("message", diagnostic.message),
      ("notes", .texts diagnostic.notes), ("text", diagnostic.text),
      ("labels", .list (diagnostic.labels.map fun label =>
        .texts [label.span.text, label.message])),
      ("primary", .ofOption (fun span => .text span.text) diagnostic.primary?)]

end Shading
