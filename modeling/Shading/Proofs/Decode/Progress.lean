import Shading.Proofs.Decode.Session

/-!
Decoding comes to an end on every blob and never runs past it. The bytes that are left bound how
deeply records nest and how many there are, since every record that gives an answer takes a byte of
its own. Main statement: `Decoder.call_progresses`.
-/

namespace Shading

namespace Decode

variable {origin : Origin} (context : Context)

/-- Each element of a list takes a byte, and so does its end. -/
theorem elementsWithin_length (depth start : Nat) :
    Accounts origin .node depth (fun decoder => decoder.reader.offset = start)
      (elementsWithin context depth)
      fun found after => start + found.length < after.reader.offset := by
  induction depth generalizing start with
  | zero => exact .noRoom
  | succ depth inductionHypothesis =>
    apply (element_consumes context).thenWithin
    intro element?
    cases element? with
    | none => exact .pure fun _ holds => holds.2
    | some first =>
      have rest : Accounts origin .node depth (fun decoder => start < decoder.reader.offset)
          (elementsWithin context depth)
          fun found after => start + 1 + found.length < after.reader.offset := by
        intro decoder ready passed
        have outcome := inductionHypothesis decoder.reader.offset decoder ready rfl
        refine ⟨outcome.history, outcome.proper, ?_⟩
        intro found same
        have further := outcome.answer found same
        omega
      have held := holding_accounts first rest
      apply (held.before fun _ holds => holds.2).bind
      intro others
      apply Accounts.pure
      intro decoder further
      rw [List.length_cons]
      omega

theorem elements_length (bound start : Nat) :
    Accounts origin .node (bound + 1) (fun decoder => decoder.reader.offset = start)
      (elements context) fun found after => start + found.length < after.reader.offset := by
  apply Consumes.command.thenWithin
  intro tag
  split
  · intro decoder ready passed
    have roomy : decoder.Ready origin (decoder.reader.remaining + 1) :=
      ⟨ready.sound, Nat.lt_succ_self _⟩
    have outcome := elementsWithin_length context _ _ decoder roomy rfl
    refine ⟨outcome.history, outcome.proper, ?_⟩
    intro found same
    have further := outcome.answer found same
    have tagged := passed.2
    show _ < (elementsWithin context (decoder.reader.remaining + 1) decoder).2.reader.offset
    omega
  · exact .throw rfl

end Decode

/-- The number of records that an answer stands for: one, and one more for each listed element. -/
def Call.records : (call : Call) → call.Answer → Nat
  | elements, (found : List Element) => found.length + 1
  | _, _ => 1

namespace Decoder

variable {origin : Origin} {decoder : Decoder}

def records (context : Context) (decoder : Decoder) : List Call → Nat
  | [] => 0
  | call :: rest =>
    (match (call.run context decoder).1 with
      | .ok answer => call.records answer
      | .error _ => 0) + (decoder.afterCall context call).records context rest

theorem Sound.records_le (sound : decoder.Sound origin) (context : Context) (call : Call)
    {answer : call.Answer} (answered : (call.run context decoder).1 = .ok answer) :
    decoder.reader.offset + call.records answer ≤
      (decoder.afterCall context call).reader.offset := by
  have passed := ((sound.outcome context call).answer answer answered).2
  cases call with
  | elements =>
    have ready : decoder.Ready origin (decoder.reader.remaining + 1) :=
      ⟨sound, Nat.lt_succ_self _⟩
    have listed := (Decode.elements_length context decoder.reader.remaining decoder.reader.offset
      decoder ready rfl).answer answer answered
    exact listed
  | _ => exact passed

/-- Over any calls, the offset moves on by at least the number of records. -/
theorem Sound.records_le_offset (sound : decoder.Sound origin) (context : Context)
    (calls : List Call) :
    decoder.reader.offset + decoder.records context calls ≤
      (decoder.afterCalls context calls).reader.offset := by
  induction calls generalizing decoder with
  | nil => exact Nat.le_refl _
  | cons call rest inductionHypothesis =>
    obtain ⟨events, history⟩ := sound.history context call
    have laws := history.sound_extended sound
    have later := inductionHypothesis laws.1
    have onwards := laws.2.advances.offset_le
    rw [records]
    show _ ≤ ((decoder.afterCall context call).afterCalls context rest).reader.offset
    cases result : (call.run context decoder).1 with
    | error fault =>
      dsimp only
      omega
    | ok answer =>
      have taken := sound.records_le context call result
      dsimp only
      omega

/-- How a call moves on in a blob. -/
structure Progresses {α : Type} (bytes : Array UInt8) (before : Decoder)
    (result : Except Fault α × Decoder) : Prop where
  ends : ∀ fault, result.1 = .error fault → fault.isEndless = false
  bytes_eq : result.2.reader.bytes = bytes
  forward : before.reader.offset ≤ result.2.reader.offset
  inside : result.2.reader.offset ≤ bytes.size
  consumes : ∀ answer, result.1 = .ok answer →
    before.reader.offset < result.2.reader.offset

/-- After any calls, every further call ends, moves forward within the blob and takes a byte for an
answer. All calls together decode no more records than there are bytes after the string table. With
the records within records, which all have tags of their own, there are no more either, however the
session is told as a history. -/
theorem call_progresses {store : Store} {active : TableId} {bytes : Array UInt8}
    (started : start store active bytes = .ok (.ok decoder)) (context : Context)
    (calls : List Call) (call : Call) :
    Progresses bytes (decoder.afterCalls context calls)
        (call.run context (decoder.afterCalls context calls)) ∧
      decoder.records context (calls ++ [call]) ≤ bytes.size - decoder.reader.offset ∧
      (∃ events, History (.ofStore store store.tables.size) .node decoder events
        (decoder.afterCalls context (calls ++ [call]))) ∧
      ∀ events, History (.ofStore store store.tables.size) .node decoder events
          (decoder.afterCalls context (calls ++ [call])) →
        Event.tagCount events ≤ bytes.size - decoder.reader.offset := by
  let origin := Origin.ofStore store store.tables.size
  have sound : decoder.Sound origin := (Origin.ofStore_starts store).sound started
  have sameBytes : decoder.reader.bytes = bytes := by
    obtain ⟨_, reader, read, same⟩ := start_cases started
    rw [same]
    exact (Reader.inside_of_start read).1
  have wholeWay := sound.advances_afterCalls context (calls ++ [call])
  have still := wholeWay.bytes_eq.trans sameBytes
  have within := (sound.afterCalls context (calls ++ [call])).inside
  rw [still] at within
  have progresses : Progresses bytes (decoder.afterCalls context calls)
      (call.run context (decoder.afterCalls context calls)) := by
    have last : decoder.afterCalls context (calls ++ [call]) =
        (decoder.afterCalls context calls).afterCall context call := by
      rw [afterCalls, List.foldl_append]
      rfl
    rw [last] at still within
    have reached := sound.afterCalls context calls
    have outcome := reached.outcome context call
    obtain ⟨events, history⟩ := outcome.history
    have onwards := (history.sound_extended reached).2.advances.offset_le
    refine ⟨outcome.proper, still, onwards, within, ?_⟩
    intro answer answered
    exact (outcome.answer answer answered).2
  refine ⟨progresses, ?_, sound.histories context (calls ++ [call]), ?_⟩
  · have counted := sound.records_le_offset context (calls ++ [call])
    omega
  · intro events any
    have tagged := (any.sound_extended sound).2.tags_le
    omega

/-- Over a blob with one enum and nothing after it, the first call is answered and the next is
not. -/
theorem enum_call_progresses :
    start emptyStore 0 enumBlob = .ok (.ok enumSession) ∧
      Progresses enumBlob (enumSession.afterCalls {} [.symbol])
          (Call.run {} .layout (enumSession.afterCalls {} [.symbol])) ∧
      enumSession.records {} ([.symbol] ++ [.layout]) ≤ enumBlob.size - 6 ∧
      (∃ events, History (.ofStore emptyStore 1) .node enumSession events
        (enumSession.afterCalls {} ([.symbol] ++ [.layout]))) ∧
      ∀ events, History (.ofStore emptyStore 1) .node enumSession events
          (enumSession.afterCalls {} ([.symbol] ++ [.layout])) →
        Event.tagCount events ≤ enumBlob.size - 6 := by
  have started : start emptyStore 0 enumBlob = .ok (.ok enumSession) := rfl
  exact ⟨started, call_progresses started {} [.symbol] .layout⟩

end Decoder

end Shading
