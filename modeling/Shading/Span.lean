import Shading.Fault

/-!
Ranges of byte offsets in a source text. Decoded code has no source text: its nodes carry
`Span.nowhere`, which is neutral for `merge` and sorts after every position.
-/

namespace Shading

/-- The bytes from `start` up to `stop`, which is excluded. -/
structure Span where
  start : UInt32
  stop : UInt32
  deriving DecidableEq, Repr

namespace Span

/-- The span of code that has no source position. -/
def nowhere : Span := ⟨0xFFFFFFFF, 0xFFFFFFFF⟩

def point (offset : UInt32) : Span := ⟨offset, offset⟩

/-- Whether a span has no source position. -/
def isNowhere (span : Span) : Bool :=
  span == nowhere

/-- The number of bytes covered. A span that ends before it starts has none. -/
def length (span : Span) : Except Fault UInt32 :=
  if span.isNowhere then .ok 0
  else if span.stop < span.start then .error .subtractOverflow
  else .ok (span.stop - span.start)

/-- Whether no byte is covered. -/
def isEmpty (span : Span) : Except Fault Bool :=
  span.length.map (· == 0)

/-- The smallest span over both; a span without position adds nothing. -/
def merge (left right : Span) : Span :=
  if left.isNowhere then right
  else if right.isNowhere then left
  else ⟨min left.start right.start, max left.stop right.stop⟩

def text (span : Span) : String :=
  if span.isNowhere then "<none>" else s!"{span.start}..{span.stop}"

end Span

end Shading
