import Shading.Expr.Coerce
import Shading.Proofs.Diagnostic.Interleaving
import Shading.Proofs.Expr.Parts
import Shading.Proofs.Type.Slots

/-!
The range of constants. An integer that is known at a slot of a value is a misfit if the type of the
slot does not hold it; the check makes one report for each misfit, in the order of the slots. The
reports tell their slots apart, so that a queue merges none of them, and it takes none of them a
second time. Main statement: `Ty.checkRange_reports`.
-/

namespace Shading

/-! ## What does not fit -/

namespace Ty

/-- Whether an integer is in the range of an integer type. Types without integers have no range. -/
def Holds (type : Ty) (value : Int64) : Prop :=
  match type.numberKind with
  | .signed => -2 ^ (type.bits - 1) ≤ value.toInt ∧ value.toInt < 2 ^ (type.bits - 1)
  | .unsigned => 0 ≤ value.toInt ∧ value.toInt < 2 ^ type.bits
  | _ => True

variable {type : Ty} {value : Int64}

theorem excludes_iff : type.excludes value = true ↔ ¬type.Holds value := by
  have power (bits : Nat) : ((Nat.pow 2 bits : Nat) : Int) = 2 ^ bits := Int.natCast_pow 2 bits
  rw [excludes, minimum?, maximum?, Holds]
  cases type.numberKind with
  | signed | unsigned =>
    simp only [power, Bool.or_eq_true, decide_eq_true_eq]
    omega
  | _ => simp

end Ty

namespace Store

variable (store : Store) (target : Ty) (value : Expr)

/-- An integer is known at a slot of a value, and the type there does not hold it. -/
def Misfit (slot : Nat) (known : Int64) : Prop :=
  ∃ scalar, target.slotType slot = .ok scalar ∧ scalar.isInteger = true ∧
    store.intAt? value slot = .ok (some known) ∧ ¬scalar.Holds known

/-- The integer at a slot of a value that the type there does not hold. -/
def misfit? (slot : Nat) : Option Int64 :=
  match target.slotType slot, store.intAt? value slot with
  | .ok scalar, .ok (some known) => if scalar.excludes known then some known else none
  | _, _ => none

variable {store target value} {slot : Nat}

theorem misfit?_eq_some {known : Int64} :
    store.misfit? target value slot = some known ↔ store.Misfit target value slot known := by
  have integer {scalar : Ty} (misfits : ¬scalar.Holds known) : scalar.isInteger = true := by
    rw [Ty.isInteger]
    rw [Ty.Holds] at misfits
    cases kind : scalar.numberKind with
    | signed | unsigned => rfl
    | _ =>
      rw [kind] at misfits
      exact absurd trivial misfits
  rw [misfit?]
  constructor
  · intro found
    split at found
    · rename_i scalar other typed answered
      split at found
      · rename_i excluded
        cases found
        have misfits := Ty.excludes_iff.mp excluded
        exact ⟨scalar, typed, integer misfits, answered, misfits⟩
      · cases found
    · cases found
  · rintro ⟨scalar, typed, _, answered, misfits⟩
    rw [typed, answered]
    exact if_pos (Ty.excludes_iff.mpr misfits)

/-- The check of a slot reports the misfit there, if there is one. -/
theorem mistakeAt?_eq {span : Span} {slots : Nat} {scalar : Ty} {known? : Option Int64}
    (typed : target.slotType slot = .ok scalar) (answered : store.intAt? value slot = .ok known?) :
    target.mistakeAt? store span value slots slot =
      .ok ((store.misfit? target value slot).map (target.rangeMistake span slots slot)) := by
  rw [Ty.mistakeAt?, misfit?, typed, answered]
  cases known? with
  | none => exact ite_self (Except.ok none)
  | some known =>
    let report := target.rangeMistake span slots slot
    change (if scalar.minimum?.isNone = true then Except.ok none
        else Except.ok (if scalar.excludes known = true then some (report known) else none)) =
      Except.ok (Option.map report (if scalar.excludes known = true then some known else none))
    cases excluded : scalar.excludes known with
    | false => exact ite_self (Except.ok none)
    | true =>
      have ranged : scalar.minimum?.isNone = false := by
        cases least : scalar.minimum? with
        | none =>
          rw [Ty.excludes, least] at excluded
          cases excluded
        | some minimum => rfl
      rw [ranged]
      rfl

end Store

/-! ## The loop -/

/-- A loop that has an answer at each slot reports the mistakes in order. -/
theorem reportMistakes_eq {mistakeAt : Nat → Except Fault (Option Diagnostic)}
    {mistake? : Nat → Option Diagnostic} (answers : ∀ slot, mistakeAt slot = .ok (mistake? slot))
    (count slot : Nat) (found : Bool) (queue : DiagnosticQueue) :
    reportMistakes mistakeAt count slot found queue =
      (.ok (found || !((List.range' slot count).filterMap mistake?).isEmpty),
        ((List.range' slot count).filterMap mistake?).foldl DiagnosticQueue.add queue) := by
  induction count generalizing slot found queue with
  | zero =>
    rw [reportMistakes]
    simp
  | succ count inductionHypothesis =>
    rw [reportMistakes, answers, List.range'_succ, List.filterMap_cons]
    cases mistake? slot with
    | none => exact inductionHypothesis (slot + 1) found queue
    | some mistake =>
      dsimp only
      rw [inductionHypothesis]
      simp

namespace Store

variable (store : Store) (target : Ty) (value : Expr)

/-- The misfits at the first slots of a value, in order. -/
def misfits (slots : Nat) : List (Nat × Int64) :=
  (List.range slots).filterMap fun slot =>
    (store.misfit? target value slot).map fun known => (slot, known)

variable {store target value} {slots : Nat}

theorem mem_misfits {slot : Nat} {known : Int64} :
    (slot, known) ∈ store.misfits target value slots ↔
      slot < slots ∧ store.Misfit target value slot known := by
  rw [misfits, List.mem_filterMap, ← misfit?_eq_some]
  constructor
  · rintro ⟨here, below, found⟩
    obtain ⟨integer, known, same⟩ := Option.map_eq_some_iff.mp found
    cases same
    exact ⟨List.mem_range.mp below, known⟩
  · rintro ⟨below, found⟩
    exact ⟨slot, List.mem_range.mpr below, by rw [found]; rfl⟩

theorem misfits_increasing : (store.misfits target value slots).Pairwise
    fun earlier later => earlier.1 < later.1 := by
  refine List.Pairwise.filterMap _ ?_ List.pairwise_lt_range
  intro earlier later lower misfit here other there
  obtain ⟨_, _, rfl⟩ := Option.map_eq_some_iff.mp here
  obtain ⟨_, _, rfl⟩ := Option.map_eq_some_iff.mp there
  exact lower

end Store

/-! ## The reports -/

theorem Ty.slotNote_inj {slot other : Nat} (same : s!"in slot {slot}" = s!"in slot {other}") :
    slot = other := by
  have digits : Nat.toDigits 10 slot = Nat.toDigits 10 other :=
    String.ofList_injective ((String.append_right_inj "in slot ").mp same)
  have read := Nat.ofDigitChars_toDigits (b := 10) (n := slot) (by decide) (by decide)
  rw [digits, Nat.ofDigitChars_toDigits (by decide) (by decide)] at read
  exact read.symm

/-- The reports of misfits, in their order. -/
def Ty.rangeMistakes (target : Ty) (span : Span) (slots : Nat) (misfits : List (Nat × Int64)) :
    List Diagnostic :=
  misfits.map fun misfit => target.rangeMistake span slots misfit.1 misfit.2

section Reports

variable {store : Store} {target : Ty} {value : Expr} {span : Span} {slots : Nat}

/-- The reports of one check differ from each other in their notes, of which there are none only for
a single slot. -/
theorem Store.rangeMistakes_distinct :
    ((target.rangeMistakes span slots (store.misfits target value slots)).map
      Diagnostic.key).Nodup := by
  rw [Ty.rangeMistakes, List.map_map]
  refine List.pairwise_map.mpr (misfits_increasing.imp_of_mem ?_)
  intro earlier later _ member lower same
  have several : 1 < slots := by
    have below := (mem_misfits.mp member).1
    omega
  have notes := congrArg (fun key => key.2.2) same
  simp only [Function.comp, Diagnostic.key, Ty.rangeMistake, if_pos several, List.cons.injEq,
    and_true] at notes
  exact Nat.ne_of_lt lower (Ty.slotNote_inj notes)

/-- All misfits at the first slots of a value, in order. -/
structure Store.MisfitsOf (store : Store) (target : Ty) (value : Expr) (slots : Nat)
    (misfits : List (Nat × Int64)) : Prop where
  mem_iff : ∀ slot known, (slot, known) ∈ misfits ↔
    slot < slots ∧ store.Misfit target value slot known
  increasing : misfits.Pairwise fun earlier later => earlier.1 < later.1

/-- What the check of an expression does that stands for a value of some slots with some misfits. -/
structure Ty.RangeChecked (target : Ty) (store : Store) (expr : Expr) (slots : Nat)
    (misfits : List (Nat × Int64)) (reports : List Diagnostic) : Prop where
  answer_eq : ∀ queue, target.checkRange store expr queue =
    (.ok (!misfits.isEmpty), reports.foldl DiagnosticQueue.add queue)
  /-- There is a report for each misfit, and it names the slot if there are several. -/
  told : reports.map (fun report => (report.code.text, report.notes)) =
    misfits.map fun misfit => ("E2005", if 1 < slots then [s!"in slot {misfit.1}"] else [])
  /-- A new queue takes all reports up to its limit. -/
  queued : (target.checkRange store expr {}).2.entries.length = min 10 misfits.length
  /-- Nothing is queued a second time. -/
  again : target.checkRange store expr (target.checkRange store expr {}).2 =
    target.checkRange store expr {}

/-- A check looks at the slots of the value that an expression stands for. -/
theorem Ty.checkRange_of_resolve {expr : Expr} (resolved : store.resolve expr = .ok value)
    (counted : value.type.slotCount = .ok slots) (queue : DiagnosticQueue) :
    target.checkRange store expr queue =
      reportMistakes (target.mistakeAt? store expr.span value slots) slots 0 false queue := by
  have started : (do let value ← store.resolve expr; return (value, ← value.type.slotCount)) =
      .ok (value, slots) := by
    rw [resolved]
    change (value.type.slotCount >>= fun slots => pure (value, slots)) = _
    rw [counted]
    rfl
  rw [checkRange, started]

/-- Every misfit of a checked expression is reported once. -/
theorem Ty.checkRange_eq {expr : Expr} (straight : store.Straight value)
    (countable : store.Countable value) (targetCountable : target.Countable)
    (resolved : store.resolve expr = .ok value) (counted : value.type.slotCount = .ok slots)
    (queue : DiagnosticQueue) :
    target.checkRange store expr queue =
      (.ok (!(store.misfits target value slots).isEmpty),
        (target.rangeMistakes expr.span slots (store.misfits target value slots)).foldl
          DiagnosticQueue.add queue) := by
  have answers (slot : Nat) : target.mistakeAt? store expr.span value slots slot =
      .ok ((store.misfit? target value slot).map
        (target.rangeMistake expr.span slots slot)) := by
    obtain ⟨scalar, typed⟩ := slotType_ok target targetCountable slot
    obtain ⟨known?, answered⟩ := Store.intAt?_answers straight countable slot
    exact Store.mistakeAt?_eq typed answered
  have reports : target.rangeMistakes expr.span slots (store.misfits target value slots) =
      (List.range' 0 slots).filterMap fun slot =>
        (store.misfit? target value slot).map (target.rangeMistake expr.span slots slot) := by
    rw [rangeMistakes, Store.misfits, List.map_filterMap, List.range_eq_range']
    simp only [Option.map_map]
    rfl
  have empty : (store.misfits target value slots).isEmpty =
      (target.rangeMistakes expr.span slots (store.misfits target value slots)).isEmpty := by
    rw [rangeMistakes, List.isEmpty_map]
  rw [checkRange_of_resolve resolved counted, reportMistakes_eq answers, empty, reports,
    Bool.false_or]

end Reports

/-- The check of the range of an expression, where no constant leads back to itself and all slots
can be counted, finds and reports each slot of its value whose integer is known and is not in the
range of the type there. -/
theorem Ty.checkRange_reports {store : Store} {target : Ty} {expr : Expr}
    (straight : store.Straight expr) (countable : store.Countable expr)
    (targetCountable : target.Countable) :
    ∃ value slots misfits reports, store.resolve expr = .ok value ∧
      value.type.slotCount = .ok slots ∧ store.MisfitsOf target value slots misfits ∧
      target.RangeChecked store expr slots misfits reports := by
  obtain ⟨value, resolved, leads⟩ := Store.resolve_answers straight
  obtain ⟨slots, counted⟩ := countable value leads value value.mem_parts_self
  have answer := checkRange_eq (straight.of_leadsTo leads) (countable.of_leadsTo leads)
    targetCountable resolved counted
  obtain ⟨waiting, collects⟩ := (DiagnosticQueue.Collects.fresh 10).addAll
    (target.rangeMistakes expr.span slots (store.misfits target value slots))
  rw [List.nil_append] at collects
  refine ⟨value, slots, store.misfits target value slots, _, resolved, counted,
    ⟨fun slot known => Store.mem_misfits, Store.misfits_increasing⟩, answer, ?_, ?_, ?_⟩
  · rw [rangeMistakes, List.map_map]
    rfl
  · have distinct : Diagnostic.keyCount (target.rangeMistakes expr.span slots
        (store.misfits target value slots)) = (store.misfits target value slots).length := by
      rw [Diagnostic.keyCount, Store.rangeMistakes_distinct.dedup, rangeMistakes, List.length_map,
        List.length_map]
    have kept := collects.length_eq
    rw [distinct, QueueConfig.capped, if_neg (by decide), Nat.min_comm] at kept
    rw [answer, collects.holds.entries_eq]
    exact kept
  · rw [answer, answer]
    exact congrArg _ (collects.addAll_again fun report member => member)

/-- `const int2 bright = int2(300, 7);` -/
def bright : Variable :=
  { width with name := "bright", type := Builtin.vectorOf Builtin.int 2 19 }

def brightValue : Expr :=
  .construct ⟨.nowhere, bright.type⟩ .compound
    [.ofPlainInt .nowhere 300, .ofPlainInt .nowhere 7]

def withBright : Store := { initials := [(bright.id, brightValue)] }

def brightName : Expr := .ofVariable .nowhere bright .read

def ubytePair : Ty := Builtin.vectorOf Builtin.ubyte 2 34

theorem withBright_goesTo {value : Expr} (goes : withBright.GoesTo brightName.followed value) :
    value = brightValue := by
  obtain ⟨target, followed, _, found⟩ := goes
  cases List.mem_singleton.mp followed
  cases found
  rfl

theorem brightName_straight : withBright.Straight brightName := by
  refine Store.straight_of_plain (fun entry member => ?_) brightName
  cases List.mem_singleton.mp member
  rfl

theorem brightName_countable : withBright.Countable brightName := by
  have nameCountable : brightName.Countable := by
    intro part member
    cases List.mem_singleton.mp member
    exact ⟨2, rfl⟩
  have valueCountable : brightValue.Countable := by
    have parts : brightValue.parts =
        [brightValue, .ofPlainInt .nowhere 300, .ofPlainInt .nowhere 7] := rfl
    simp only [Expr.Countable, parts, List.forall_mem_cons, List.not_mem_nil, false_implies,
      implies_true, and_true]
    exact ⟨⟨2, rfl⟩, ⟨1, rfl⟩, ⟨1, rfl⟩⟩
  rintro value (_ | ⟨goes, later⟩)
  · exact nameCountable
  · rw [withBright_goesTo goes] at later
    rcases later with _ | ⟨onward, _⟩
    · exact valueCountable
    · obtain ⟨target, followed, _⟩ := onward
      cases followed

/-- Of two integers of a constant, the first is too great for a byte. -/
theorem brightName_checked :
    withBright.Straight brightName ∧ withBright.Countable brightName ∧ ubytePair.Countable ∧
      (∃ value slots misfits reports, withBright.resolve brightName = .ok value ∧
        value.type.slotCount = .ok slots ∧ withBright.MisfitsOf ubytePair value slots misfits ∧
        ubytePair.RangeChecked withBright brightName slots misfits reports) ∧
      (ubytePair.checkRange withBright brightName {}).1 = .ok true ∧
      (ubytePair.checkRange withBright brightName {}).2.entries.map (·.notes) =
        [["in slot 0"]] := by
  have targetCountable : ubytePair.Countable := by
    intro part member
    cases List.mem_singleton.mp member
    exact ⟨2, rfl⟩
  exact ⟨brightName_straight, brightName_countable, targetCountable,
    Ty.checkRange_reports brightName_straight brightName_countable targetCountable, by rfl, by rfl⟩

end Shading
