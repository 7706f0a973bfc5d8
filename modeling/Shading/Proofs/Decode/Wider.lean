import Shading.Proofs.Decode.ParallelElement
import Shading.Proofs.Decode.Session

/-!
What a decoded program does not depend on. A blob that decodes to a program decodes to the same one
when bytes follow it and when the context allows more: in parallel sessions over one store, only the
bytes behind the reader and the policy differ.
-/

namespace Shading

namespace Decoder

/-- The session over a blob with bytes after it. -/
def extended (decoder : Decoder) (tail : Array UInt8) : Decoder :=
  { decoder with reader := decoder.reader.extended tail }

theorem extended_empty (decoder : Decoder) : decoder.extended #[] = decoder := by
  rw [extended, Reader.extended_empty]

theorem start_append {store : Store} {active : TableId} {bytes : Array UInt8} {decoder : Decoder}
    (started : start store active bytes = .ok (.ok decoder)) (tail : Array UInt8) :
    start store active (bytes ++ tail) = .ok (.ok (decoder.extended tail)) := by
  obtain ⟨builtin, reader, read, same⟩ := start_cases started
  subst same
  rw [start, builtin, Reader.start_append read]
  rfl

end Decoder

/-- Sessions over one store, of which the second may do more and read on further. -/
def Parallel.wider {narrow wide : Context} (widens : wide.Widens narrow) (tail : Array UInt8) :
    Parallel where
  first := .same
  second := .same
  context := narrow
  context' := wide
  strict := False
  tail := tail
  Related decoder decoder' := decoder' = decoder.extended tail
  Opened _ := True
  Drawn _ _ := True
  widens := widens
  sameContext := False.elim
  noTail := False.elim
  first_injective := Function.injective_id
  second_injective := Function.injective_id
  drawn_mono _ _ := trivial
  drawn_last _ := trivial
  reader_eq related := by
    rw [related]
    rfl
  withReader related _ := by
    rw [related]
    rfl
  ids_alike related := by
    rw [related]
    exact ⟨rfl, rfl⟩
  waste related := by
    rw [related]
    rfl
  active_alike related := by
    rw [related]
    rfl
  activate related same := by
    have tables := same
    subst related tables
    rfl
  adopt related alike _ := by
    have symbols := eq_of_alike_same alike
    subst related symbols
    rfl
  registered related place := by
    rw [related]
    exact ⟨rfl, fun _ _ => Or.inr trivial⟩
  enter related _ alike _ := by
    have symbols := eq_of_alike_same alike
    subst related symbols
    rfl
  visible related _ := by
    rw [related]
    rfl
  openTable related inherit := by
    rw [related]
    exact ⟨rfl, trivial, rfl⟩
  bind related _ same alike := by
    have tables := same
    have symbols := eq_of_alike_same alike
    subst related symbols tables
    rfl
  owned related _ same := by
    have tables := same
    subst related tables
    exact ⟨rfl, fun _ _ => trivial⟩
  attach related alikeTargets _ alikeValues := by
    have targets := eq_of_alike_same alikeTargets
    have values := eq_of_alike_same alikeValues
    subst related targets values
    refine .refl fun store attached => ⟨?_, rfl⟩
    rw [(Store.attachInitial_cases attached).2]
  define related alikeFunctions _ := by
    have functions := eq_of_alike_same alikeFunctions
    subst related functions
    refine .refl fun store defined => ⟨?_, rfl⟩
    rw [Store.define_cases defined]
    rfl

namespace Program

variable {store : Store} {builtin : TableId} {bytes : Array UInt8}

/-- A program is decoded again, with the same session behind it, where the context is wider and
bytes follow the blob. -/
theorem ofBlob_extended {narrow wide : Context} (widens : wide.Widens narrow) {program : Program}
    {after : Decoder} (decoded : ofBlob narrow store builtin bytes = .ok (.ok (program, after)))
    (tail : Array UInt8) :
    ofBlob wide store builtin (bytes ++ tail) = .ok (.ok (program, after.extended tail)) := by
  obtain ⟨decoder, started, ran⟩ := ofBlob_cases decoded
  have follows : (Parallel.wider widens tail).Follows 0 (Decode.program narrow)
      (Decode.program wide) (Parallel.wider widens tail).Programs := Decode.program_follows
  have answers := follows decoder (decoder.extended tail) (Nat.zero_le _) rfl
  obtain ⟨program', after', ran', programs, related, _⟩ := answers.answered ran
  have same : program = program' := eq_of_alike_same programs.alike
  have sameSession : after' = after.extended tail := related
  subst same sameSession
  rw [ofBlob, Decoder.start_append started tail]
  dsimp only
  have wideRan : Decode.program wide (decoder.extended tail) = (.ok program, after.extended tail) :=
    ran'
  rw [wideRan]

/-- Bytes after a blob that decodes change nothing but how far it is to its end. -/
theorem ofBlob_append {context : Context} {program : Program} {after : Decoder}
    (decoded : ofBlob context store builtin bytes = .ok (.ok (program, after)))
    (tail : Array UInt8) :
    ofBlob context store builtin (bytes ++ tail) = .ok (.ok (program, after.extended tail)) :=
  ofBlob_extended (.refl context) decoded tail

/-- A blob of a program with one function, whose body compares `true` and `false`. -/
def comparisonBlob : Array UInt8 :=
  #[8, 0, 1, 0, 1, 69, 1, 102, 57, 17, 19, 8, 0, 0, 3, 6, 0, 0, 7, 1, 0, 4, 0, 29, 36, 37, 1, 16,
    37, 0, 0, 23]

theorem exists_ofBlob_comparisonBlob : ∃ program after,
    ofBlob {} Decoder.emptyStore 0 comparisonBlob = .ok (.ok (program, after)) := by
  have answered : ((ofBlob {} Decoder.emptyStore 0 comparisonBlob).toOption.bind
      Except.toOption).any (fun _ => true) = true := by decide +kernel
  obtain ⟨program, after, decoded, _⟩ := exists_of_any answered
  exact ⟨program, after, decoded⟩

/-- Even if what follows looks like more elements. -/
theorem comparisonBlob_append : ∃ program after,
    ofBlob {} Decoder.emptyStore 0 comparisonBlob = .ok (.ok (program, after)) ∧
      ofBlob {} Decoder.emptyStore 0 (comparisonBlob ++ #[17, 23]) =
        .ok (.ok (program, after.extended #[17, 23])) := by
  obtain ⟨program, after, decoded⟩ := exists_ofBlob_comparisonBlob
  exact ⟨program, after, decoded, ofBlob_append decoded #[17, 23]⟩

end Program

/-! ## Narrowing -/

/-- Whatever is accepted while implicit conversions may not lose information means the same once
they may: programs, the types of operations, the functions that calls mean, and converted
expressions, with the reports so far. -/
theorem strict_meaning_kept (capabilities : List (String × Capability)) :
    let strict : Context := { allowNarrowing := false, capabilities }
    let lenient : Context := { allowNarrowing := true, capabilities }
    (∀ store builtin bytes result, Program.ofBlob strict store builtin bytes = .ok (.ok result) →
      Program.ofBlob lenient store builtin bytes = .ok (.ok result)) ∧
    (∀ (op : Operator) (left right type : Ty), op.resultType? left right false = .ok (some type) →
      op.resultType? left right true = .ok (some type)) ∧
    (∀ (set : OverloadSet) (arguments : List Ty) (function : Function),
      set.bestMatch? arguments false = some function →
      set.bestMatch? arguments true = some function) ∧
    ∀ (target : Ty) (expr converted : Expr) (queue after : DiagnosticQueue),
      target.coerce strict expr queue = .ok (some converted, after) →
      target.coerce lenient expr queue = .ok (some converted, after) := by
  intro strict lenient
  have widens : lenient.Widens strict := .lenient capabilities
  refine ⟨?_, ?_, ?_, ?_⟩
  · intro store builtin bytes result decoded
    have again := Program.ofBlob_extended widens decoded #[]
    rw [Array.append_empty, Decoder.extended_empty] at again
    exact again
  · intro op left right type chosen
    exact Operator.resultType?_of_strict chosen
  · intro set arguments function chosen
    exact bestMatch?_of_strict chosen
  · intro target expr converted queue after made
    exact Ty.coerce_of_widens widens made

/-- A function of one parameter, for the sample below. -/
def unaryFunction (id : Nat) (type : Ty) : Function :=
  let parameter : Variable :=
    { id := id + 1, modifiers := {}, name := "x", type, builtin := true, storage := .parameter }
  { id, modifiers := {}, name := "f", parameters := [parameter], returnType := type,
    builtin := true }

theorem sample_meaning_kept :
    let set : OverloadSet :=
      { id := 100, first := unaryFunction 101 Builtin.float,
        others := [unaryFunction 103 Builtin.half] }
    let value := Expr.ofInt .nowhere 3 Builtin.short
    (∃ result,
      Program.ofBlob {} Decoder.emptyStore 0 Program.comparisonBlob = .ok (.ok result) ∧
      Program.ofBlob { allowNarrowing := true } Decoder.emptyStore 0 Program.comparisonBlob =
        .ok (.ok result)) ∧
    Operator.plus.resultType? Builtin.short Builtin.int true = .ok (some Builtin.int) ∧
    set.bestMatch? [Builtin.half] true = some (unaryFunction 103 Builtin.half) ∧
    ∃ literal converted, value = .ok literal ∧
      Builtin.int.coerce { allowNarrowing := true } literal {} = .ok (some converted, {}) := by
  obtain ⟨programs, types, calls, values⟩ := strict_meaning_kept []
  refine ⟨?_, types _ _ _ _ rfl, calls _ _ _ rfl, _, _, rfl, values _ _ _ _ _ rfl⟩
  obtain ⟨program, after, decoded⟩ := Program.exists_ofBlob_comparisonBlob
  exact ⟨(program, after), decoded, programs _ _ _ _ decoded⟩

end Shading
