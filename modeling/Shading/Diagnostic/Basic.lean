import Shading.Span

/-!
Diagnostics: what is told to the user about a mistake in a program, and where it is.
-/

namespace Shading

/-- The kinds of mistakes that type checking reports. -/
inductive ErrorCode where
  /-- No implicit conversion leads to the expected type. -/
  | typeMismatch
  /-- A function is named but not called. -/
  | uncalledFunction
  /-- A type is named but nothing is constructed. -/
  | unconstructedType
  /-- The expected type has no constructor for the value. -/
  | noConstructor
  /-- An integer does not fit its type. -/
  | outOfRange
  deriving DecidableEq, Repr

namespace ErrorCode

/-- The searchable code of a mistake. -/
def text : ErrorCode → String
  | typeMismatch => "E2001"
  | uncalledFunction => "E2002"
  | unconstructedType => "E2003"
  | noConstructor => "E2004"
  | outOfRange => "E2005"

/-- The mistake in a few words, as the label of its place. -/
def summary : ErrorCode → String
  | typeMismatch => "type mismatch"
  | uncalledFunction => "function reference without call"
  | unconstructedType => "type reference without constructor"
  | noConstructor => "type cannot be constructed"
  | outOfRange => "integer literal out of range"

end ErrorCode

/-- A place in the source and what is said about it. -/
structure Label where
  span : Span
  message : String
  deriving DecidableEq, Repr

/-- One mistake. The first label is the place where it was found. -/
structure Diagnostic where
  code : ErrorCode
  message : String := ""
  labels : List Label := []
  notes : List String := []
  deriving DecidableEq, Repr

namespace Diagnostic

/-- The place where the mistake was found, if it has one. -/
def primary? (diagnostic : Diagnostic) : Option Span :=
  diagnostic.labels.head?.map Label.span

/-- The offset to sort by. What has no place comes after everything that has one. -/
def offset (diagnostic : Diagnostic) : UInt32 :=
  match diagnostic.primary? with
  | some span => span.start
  | none => 0xFFFFFFFF

/-- A diagnostic as it is shown to the user. -/
def text (diagnostic : Diagnostic) : String :=
  let place :=
    match diagnostic.primary? with
    | some span => if span.isNowhere then "" else s!" (at {span.text})"
    | none => ""
  let notes := diagnostic.notes.map fun note => s!"\n  = note: {note}"
  s!"error[{diagnostic.code.text}]: {diagnostic.message}" ++ place ++ String.join notes

/-- A mistake at a place, labelled with the summary of its code. -/
def placed (span : Span) (code : ErrorCode) (message : String) : Diagnostic :=
  { code, message, labels := [⟨span, code.summary⟩] }

/-- A value of one type where another is expected. -/
def typeMismatch (span : Span) (expected found : String) : Diagnostic :=
  { code := .typeMismatch
    message := s!"expected '{expected}', but found '{found}'"
    labels := [⟨span, s!"expected `{expected}`"⟩] }

end Diagnostic

end Shading
