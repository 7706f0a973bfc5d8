import Shading.Diagnostic.Basic

/-!
The queue that diagnostics wait in. Checking goes on after a mistake, so that one mistake may be
reported more than once; the queue can drop the repetitions and stop at a limit. Flushing hands the
diagnostics out in the order of their places and leaves an empty queue.
-/

namespace Shading

/-- How a queue filters what is reported. -/
structure QueueConfig where
  /-- The number of diagnostics after which more are dropped; zero means that there is no limit. -/
  limit : Nat := 10
  /-- Whether to drop what repeats the offset, message and notes of a queued diagnostic. -/
  deduplicate : Bool := true
  deriving DecidableEq, Repr

/-- Everything that is reported is kept. -/
def QueueConfig.unlimited : QueueConfig := ⟨0, false⟩

/-- A diagnostic in a queue, with the offset to sort it by. -/
structure QueuedDiagnostic where
  diagnostic : Diagnostic
  offset : UInt32
  deriving DecidableEq, Repr

/-- Whether a queued diagnostic tells the same as another one at some offset. -/
def QueuedDiagnostic.tells (earlier : QueuedDiagnostic) (diagnostic : Diagnostic)
    (offset : UInt32) : Bool :=
  earlier.offset == offset && earlier.diagnostic.message == diagnostic.message
    && earlier.diagnostic.notes == diagnostic.notes

/-- The diagnostics taken since the last flush, in the order of the reports. -/
structure DiagnosticQueue where
  config : QueueConfig := {}
  queued : List QueuedDiagnostic := []
  /-- The number of diagnostics taken since the last flush, which the limit is compared with. -/
  count : Nat := 0
  deriving DecidableEq, Repr

namespace DiagnosticQueue

/-- The queued diagnostics in the order of their reports. -/
def entries (queue : DiagnosticQueue) : List Diagnostic :=
  queue.queued.map QueuedDiagnostic.diagnostic

def isEmpty (queue : DiagnosticQueue) : Bool :=
  queue.queued.isEmpty

/-- Whether further diagnostics are dropped. -/
def limitReached (queue : DiagnosticQueue) : Bool :=
  0 < queue.config.limit && queue.config.limit ≤ queue.count

/-- Whether a queued diagnostic tells the same about the same place. -/
def isDuplicate (queue : DiagnosticQueue) (diagnostic : Diagnostic) (offset : UInt32) : Bool :=
  queue.queued.any (·.tells diagnostic offset)

/-- Offers a diagnostic to a queue, which says whether it was taken. -/
def offer (queue : DiagnosticQueue) (diagnostic : Diagnostic) : Bool × DiagnosticQueue :=
  if queue.limitReached then (false, queue)
  else if queue.config.deduplicate && queue.isDuplicate diagnostic diagnostic.offset then
    (false, queue)
  else
    (true,
      { queue with
        queued := queue.queued ++ [⟨diagnostic, diagnostic.offset⟩]
        count := queue.count + 1 })

/-- Whether a queue takes a diagnostic. -/
def accepts (queue : DiagnosticQueue) (diagnostic : Diagnostic) : Bool :=
  (queue.offer diagnostic).1

/-- A queue after a diagnostic was reported, taken or not. -/
def add (queue : DiagnosticQueue) (diagnostic : Diagnostic) : DiagnosticQueue :=
  (queue.offer diagnostic).2

/-- The queued diagnostics by offset, those of one offset in the order of their reports. -/
def sorted (queue : DiagnosticQueue) : List Diagnostic :=
  (queue.queued.mergeSort fun left right => left.offset ≤ right.offset).map
    QueuedDiagnostic.diagnostic

/-- Hands the sorted diagnostics out and empties the queue. -/
def flush (queue : DiagnosticQueue) : List Diagnostic × DiagnosticQueue :=
  (queue.sorted, { queue with queued := [], count := 0 })

end DiagnosticQueue

end Shading
