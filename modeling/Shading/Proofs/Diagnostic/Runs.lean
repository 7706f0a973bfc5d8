import Shading.Diagnostic.Queue

/-!
Runs of calls on a diagnostic queue. What waits in a queue is read off the answers alone: the
diagnostics that were taken since the last flush. One call keeps the queue in step with them, and so
does a run. Main statement: `DiagnosticQueue.laws_afterCalls`.
-/

namespace Shading

/-- What a diagnostic tells and where. Two diagnostics of one key are repetitions. -/
def Diagnostic.key (diagnostic : Diagnostic) : UInt32 × String × List String :=
  (diagnostic.offset, diagnostic.message, diagnostic.notes)

/-- A call on a diagnostic queue. -/
inductive QueueCall where
  | add (diagnostic : Diagnostic)
  | peek
  | flush

/-- What a call on a diagnostic queue answers. -/
inductive QueueAnswer where
  | added (taken : Bool)
  | listed (diagnostics : List Diagnostic)

/-- The diagnostics that wait after one more call, told from its answer. -/
def QueueAnswer.waiting (before : List Diagnostic) : QueueCall × QueueAnswer → List Diagnostic
  | (.add diagnostic, .added true) => before ++ [diagnostic]
  | (.flush, _) => []
  | _ => before

namespace DiagnosticQueue

/-- A call with its answer and the queue after it. -/
def called (queue : DiagnosticQueue) : QueueCall → QueueAnswer × DiagnosticQueue
  | .add diagnostic => (.added (queue.offer diagnostic).1, (queue.offer diagnostic).2)
  | .peek => (.listed queue.entries, queue)
  | .flush => (.listed queue.flush.1, queue.flush.2)

def afterCalls (queue : DiagnosticQueue) (calls : List QueueCall) : DiagnosticQueue :=
  calls.foldl (fun now call => (now.called call).2) queue

/-- The calls of a run with their answers. -/
def transcript (queue : DiagnosticQueue) : List QueueCall → List (QueueCall × QueueAnswer)
  | [] => []
  | call :: rest => (call, (queue.called call).1) :: (queue.called call).2.transcript rest

/-- The diagnostics that were taken since the last flush of a run, in the order of the reports. -/
def waiting (queue : DiagnosticQueue) (calls : List QueueCall) : List Diagnostic :=
  (queue.transcript calls).foldl QueueAnswer.waiting []

/-! ## One call -/

variable {queue : DiagnosticQueue} {config : QueueConfig} {waiting : List Diagnostic}
  {diagnostic : Diagnostic}

/-- A queue that holds some diagnostics and has counted them. -/
structure Holds (queue : DiagnosticQueue) (config : QueueConfig) (waiting : List Diagnostic) :
    Prop where
  config_eq : queue.config = config
  queued_eq : queue.queued = waiting.map fun diagnostic => ⟨diagnostic, diagnostic.offset⟩
  count_eq : queue.count = waiting.length
  count_le : config.limit ≠ 0 → queue.count ≤ config.limit
  distinct : config.deduplicate = true →
    waiting.Pairwise fun earlier later => earlier.key ≠ later.key

/-- When a queue takes a diagnostic that holds some already. -/
def HasRoom (config : QueueConfig) (waiting : List Diagnostic) (diagnostic : Diagnostic) : Prop :=
  (config.limit = 0 ∨ waiting.length < config.limit) ∧
    (config.deduplicate = true → ∀ earlier ∈ waiting, earlier.key ≠ diagnostic.key)

theorem tells_iff (earlier : Diagnostic) :
    QueuedDiagnostic.tells ⟨earlier, earlier.offset⟩ diagnostic diagnostic.offset = true ↔
      earlier.key = diagnostic.key := by
  simp only [QueuedDiagnostic.tells, Diagnostic.key, Bool.and_eq_true, beq_iff_eq, Prod.mk.injEq,
    and_assoc]

namespace Holds

theorem fresh (config : QueueConfig) : Holds { config } config [] where
  config_eq := rfl
  queued_eq := rfl
  count_eq := rfl
  count_le := fun _ => Nat.zero_le _
  distinct := fun _ => List.Pairwise.nil

theorem entries_eq (holds : queue.Holds config waiting) : queue.entries = waiting := by
  rw [entries, holds.queued_eq, List.map_map]
  exact List.map_id waiting

theorem limitReached_iff (holds : queue.Holds config waiting) :
    queue.limitReached = false ↔ config.limit = 0 ∨ waiting.length < config.limit := by
  simp only [limitReached, holds.config_eq, holds.count_eq, Bool.and_eq_false_iff,
    decide_eq_false_iff_not]
  omega

theorem isDuplicate_iff (holds : queue.Holds config waiting) :
    queue.isDuplicate diagnostic diagnostic.offset = true ↔
      ∃ earlier ∈ waiting, earlier.key = diagnostic.key := by
  rw [isDuplicate, holds.queued_eq, List.any_map, List.any_eq_true]
  constructor
  · rintro ⟨earlier, member, tells⟩
    exact ⟨earlier, member, (tells_iff earlier).mp tells⟩
  · rintro ⟨earlier, member, same⟩
    exact ⟨earlier, member, (tells_iff earlier).mpr same⟩

/-- What has room is taken, and waits behind what waited before. -/
theorem offer_of_room (holds : queue.Holds config waiting)
    (room : HasRoom config waiting diagnostic) :
    (queue.offer diagnostic).1 = true ∧
      (queue.offer diagnostic).2.Holds config (waiting ++ [diagnostic]) := by
  have below : queue.limitReached = false := holds.limitReached_iff.mpr room.1
  have new :
      (queue.config.deduplicate && queue.isDuplicate diagnostic diagnostic.offset) = false := by
    rw [holds.config_eq]
    cases dedup : config.deduplicate with
    | false => rfl
    | true =>
      rw [Bool.true_and, ← Bool.not_eq_true, holds.isDuplicate_iff]
      rintro ⟨earlier, member, same⟩
      exact room.2 dedup earlier member same
  rw [offer, below, new]
  refine ⟨rfl, ⟨holds.config_eq, ?_, ?_, ?_, ?_⟩⟩
  · simp [holds.queued_eq]
  · simp [holds.count_eq]
  · intro limited
    have short := room.1.resolve_left limited
    have counted := holds.count_eq
    simp only [Bool.false_eq_true, ↓reduceIte]
    omega
  · intro dedup
    refine List.pairwise_append.mpr ⟨holds.distinct dedup, List.pairwise_singleton _ _, ?_⟩
    intro earlier member later here
    rw [List.mem_singleton.mp here]
    exact room.2 dedup earlier member

/-- What has no room is refused, and the queue stays as it is. -/
theorem offer_of_noRoom (holds : queue.Holds config waiting)
    (full : ¬HasRoom config waiting diagnostic) : queue.offer diagnostic = (false, queue) := by
  rw [offer]
  cases reached : queue.limitReached with
  | true => rfl
  | false =>
    have below := holds.limitReached_iff.mp reached
    cases repeats : queue.config.deduplicate && queue.isDuplicate diagnostic diagnostic.offset with
    | true => rfl
    | false =>
      refine absurd ⟨below, fun dedup earlier member same => ?_⟩ full
      have found := holds.isDuplicate_iff.mpr ⟨earlier, member, same⟩
      rw [holds.config_eq, dedup, found] at repeats
      cases repeats

theorem offer_iff (holds : queue.Holds config waiting) :
    (queue.offer diagnostic).1 = true ↔ HasRoom config waiting diagnostic := by
  refine ⟨fun taken => ?_, fun room => (holds.offer_of_room room).1⟩
  by_cases room : HasRoom config waiting diagnostic
  · exact room
  · rw [holds.offer_of_noRoom room] at taken
    cases taken

theorem flush_eq (holds : queue.Holds config waiting) : queue.flush.2 = { config } := by
  rw [flush, holds.config_eq]

/-- One call keeps a queue in step with what its answer tells. -/
theorem called (holds : queue.Holds config waiting) (call : QueueCall) :
    (queue.called call).2.Holds config
      (QueueAnswer.waiting waiting (call, (queue.called call).1)) := by
  cases call with
  | add diagnostic =>
    rw [DiagnosticQueue.called]
    by_cases room : HasRoom config waiting diagnostic
    · obtain ⟨taken, after⟩ := holds.offer_of_room room
      rw [taken]
      exact after
    · rw [holds.offer_of_noRoom room]
      exact holds
  | peek => exact holds
  | flush =>
    rw [DiagnosticQueue.called, holds.flush_eq]
    exact fresh config

/-- So does a run of calls. -/
theorem afterCalls (holds : queue.Holds config waiting) (calls : List QueueCall) :
    (queue.afterCalls calls).Holds config
      ((queue.transcript calls).foldl QueueAnswer.waiting waiting) := by
  induction calls generalizing queue waiting with
  | nil => exact holds
  | cons call rest inductionHypothesis => exact inductionHypothesis (holds.called call)

end Holds

/-! ## Flushing -/

/-- Lists are sorted by offset with what is at one offset in its order: nothing is lost and nothing
comes twice. -/
structure SortedFrom (sorted source : List Diagnostic) : Prop where
  perm : sorted.Perm source
  ordered : sorted.Pairwise fun earlier later => earlier.offset ≤ later.offset
  stable : ∀ offset, sorted.filter (·.offset = offset) = source.filter (·.offset = offset)

theorem Holds.sorted_eq (holds : queue.Holds config waiting) :
    queue.sorted = waiting.mergeSort fun left right => left.offset ≤ right.offset := by
  rw [sorted, holds.queued_eq, ← List.map_mergeSort, List.map_map]
  · exact List.map_id _
  · intro left _ right _
    rfl

theorem sortedFrom_mergeSort (source : List Diagnostic) :
    SortedFrom (source.mergeSort fun left right => left.offset ≤ right.offset) source := by
  have perm := List.mergeSort_perm source fun left right => left.offset ≤ right.offset
  have transitive : ∀ left middle right : Diagnostic,
      decide (left.offset ≤ middle.offset) = true → decide (middle.offset ≤ right.offset) = true →
        decide (left.offset ≤ right.offset) = true := by
    intro left middle right lower upper
    exact decide_eq_true (UInt32.le_trans (of_decide_eq_true lower) (of_decide_eq_true upper))
  have total : ∀ left right : Diagnostic,
      (decide (left.offset ≤ right.offset) || decide (right.offset ≤ left.offset)) = true := by
    intro left right
    simpa using UInt32.le_total left.offset right.offset
  refine ⟨perm, ?_, fun offset => ?_⟩
  · exact (List.pairwise_mergeSort transitive total source).imp of_decide_eq_true
  · -- What is at one offset is in order before the sort, so that it stays a sublist.
    have level : (source.filter (·.offset = offset)).Pairwise
        fun left right => decide (left.offset ≤ right.offset) = true := by
      refine List.pairwise_of_forall_mem_list fun left here right there => ?_
      have leftAt := of_decide_eq_true (List.mem_filter.mp here).2
      have rightAt := of_decide_eq_true (List.mem_filter.mp there).2
      rw [leftAt, rightAt]
      exact decide_eq_true (UInt32.le_refl offset)
    have kept := (List.sublist_mergeSort transitive total level List.filter_sublist).filter
      (·.offset = offset)
    rw [List.filter_filter] at kept
    simp only [Bool.and_self] at kept
    exact (kept.eq_of_length (perm.filter _).length_eq.symm).symm

/-! ## Runs -/

/-- What a queue answers after a run, where `waiting` was taken since the last flush. -/
structure Laws (config : QueueConfig) (waiting : List Diagnostic) (now : DiagnosticQueue) :
    Prop where
  count_eq : now.count = now.queued.length
  count_le : config.limit ≠ 0 → now.count ≤ config.limit
  /-- No two queued diagnostics tell the same about one place. -/
  distinct : config.deduplicate = true →
    now.entries.Pairwise fun earlier later => earlier.key ≠ later.key
  /-- A diagnostic is taken if the limit leaves room and it repeats nothing. -/
  taken_iff : ∀ diagnostic, (now.offer diagnostic).1 = true ↔
    (config.limit = 0 ∨ now.queued.length < config.limit) ∧
      (config.deduplicate = true → ∀ earlier ∈ now.entries, earlier.key ≠ diagnostic.key)
  refused : ∀ diagnostic, (now.offer diagnostic).1 = false → (now.offer diagnostic).2 = now
  entries_eq : now.entries = waiting
  flushed : SortedFrom now.flush.1 waiting
  /-- After a flush the queue is a new one of its configuration. -/
  emptied : now.flush.2 = { config }

/-- Whatever was called, a queue holds and hands out what it has taken since the last flush. -/
theorem laws_afterCalls (config : QueueConfig) (calls : List QueueCall) :
    Laws config (DiagnosticQueue.waiting { config } calls)
      (DiagnosticQueue.afterCalls { config } calls) := by
  have holds := (Holds.fresh config).afterCalls calls
  have listed := holds.entries_eq
  have counted : (DiagnosticQueue.afterCalls { config } calls).queued.length =
      (DiagnosticQueue.waiting { config } calls).length := by
    rw [holds.queued_eq, List.length_map]
    rfl
  refine
    { count_eq := holds.count_eq.trans counted.symm
      count_le := holds.count_le
      distinct := listed ▸ holds.distinct
      taken_iff := fun diagnostic => ?_
      refused := fun diagnostic refused => ?_
      entries_eq := listed
      flushed := ?_
      emptied := holds.flush_eq }
  · rw [listed, counted]
    exact holds.offer_iff
  · by_cases room : HasRoom config (DiagnosticQueue.waiting { config } calls) diagnostic
    · rw [(holds.offer_of_room room).1] at refused
      cases refused
    · rw [holds.offer_of_noRoom room]
  · rw [flush, holds.sorted_eq]
    exact sortedFrom_mergeSort _

end DiagnosticQueue

end Shading
