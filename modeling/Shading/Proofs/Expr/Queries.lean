import Shading.Expr.Build
import Shading.Proofs.Expr.Circles

/-!
The queries of constants, link by link. A link of each query asks only for the initial values of
constants among the variables it comes to, at no greater slots. So every query comes to an end
unless a constant leads back to itself, and one that does not end is cut off by every bound. Main
statement: `Store.queries_settle`.
-/

namespace Shading

variable (store : Store)

theorem Store.goesTo_of_constant? {i : Expr.Info} {target : Variable} {use : RefKind}
    {value : Expr} (found : store.constant? (.reference i target use) = some value) :
    store.GoesTo [target] value := by
  simp only [constant?, Option.ite_none_right_eq_some] at found
  exact ⟨target, List.mem_singleton_self target, found.1, found.2⟩

namespace Asks

variable {α : Type} {slot : Nat}

/-- A reference asks for the value of the constant, or it has no answer. -/
theorem constant {outcome : Except Fault α} (i : Expr.Info) (target : Variable) (use : RefKind)
    (ends : Proper outcome) :
    Asks (store.GoesTo [target]) slot fun next =>
      match store.constant? (.reference i target use) with
      | some value => next value slot
      | none => outcome := by
  cases found : store.constant? (.reference i target use) with
  | none => exact .answer ends
  | some value => exact .ask (store.goesTo_of_constant? found) (Nat.le_refl slot)

/-- Of arguments laid out in a row, one asks. -/
theorem among {argument : Expr} {rest : List Expr} {here : Query α → Except Fault α}
    {later : Nat → Query α → Except Fault α}
    (asksHere : Asks (store.GoesTo argument.followed) slot here)
    (asksLater : ∀ count,
      Asks (store.GoesTo (Expr.followedAll rest)) (slot - count) (later count)) :
    Asks (store.GoesTo (argument.followed ++ Expr.followedAll rest)) slot fun next =>
      argument.type.slotCount >>= fun count =>
        if slot < count then here next else later count next := by
  refine .after argument.type.slotCount_proper fun count => .either ?_ ?_
  · exact asksHere.ofLeft (Nat.le_refl slot)
  · exact (asksLater count).ofRight (Nat.sub_le slot count)

end Asks

namespace Store

theorem resolveWithin_linked :
    Linked store fun bound expr _ => store.resolveWithin bound expr where
  cut _ _ := rfl
  link expr slot := by
    cases found : store.constant? expr with
    | none =>
      refine ⟨fun _ => .ok expr, .answer (.ok expr), fun bound => ?_⟩
      simp only [resolveWithin, found]
    | some value =>
      cases expr with
      | reference i target use =>
        have goes := store.goesTo_of_constant? found
        refine ⟨fun next => next value slot, .ask goes (Nat.le_refl slot), fun bound => ?_⟩
        simp only [resolveWithin, found]
      | _ => cases found

/-! ## Literals -/

mutual

theorem literalWith_asks (expr : Expr) (slot : Nat) :
    Asks (store.GoesTo expr.followed) slot fun next => store.literalWith next expr slot := by
  cases expr with
  | reference i target use =>
    simp only [literalWith, Expr.followed]
    exact .constant store i target use (.ok none)
  | construct i flavour arguments =>
    have first := literalFirst_asks arguments slot
    have among := literalAmong_asks arguments slot
    simp only [literalWith, Expr.followed]
    cases flavour with
    | splat => exact first
    | diagonalMatrix => exact .either first (.answer (.ok none))
    | array | compound | struct => exact among
    | compoundCast | matrixResize | scalarCast => exact .answer (.ok none)
  | _ =>
    simp only [literalWith]
    exact .answer (.ok _)

theorem literalFirst_asks (arguments : List Expr) (slot : Nat) :
    Asks (store.GoesTo (Expr.followedAll arguments)) slot fun next =>
      store.literalFirst next arguments := by
  cases arguments with
  | nil =>
    simp only [literalFirst]
    exact .answer (.ok none)
  | cons argument rest =>
    simp only [literalFirst, Expr.followedAll]
    exact (literalWith_asks argument 0).ofLeft (Nat.zero_le slot)

theorem literalAmong_asks (arguments : List Expr) (slot : Nat) :
    Asks (store.GoesTo (Expr.followedAll arguments)) slot fun next =>
      store.literalAmong next arguments slot := by
  cases arguments with
  | nil =>
    simp only [literalAmong]
    exact .answer (.ok none)
  | cons argument rest =>
    simp only [literalAmong, Expr.followedAll]
    exact .among store (literalWith_asks argument slot) fun count =>
      literalAmong_asks rest (slot - count)

end

theorem literalWithin_linked : Linked store store.literalWithin where
  cut _ _ := rfl
  link expr slot := ⟨_, store.literalWith_asks expr slot, fun _ => rfl⟩

/-! ## Integers -/

theorem operandSlot_le (operand : Expr) (slot : Nat) : operandSlot operand slot ≤ slot := by
  rw [operandSlot]
  split
  · exact Nat.zero_le slot
  · exact Nat.le_refl slot

mutual

theorem intWith_asks (expr : Expr) (slot : Nat) :
    Asks (store.GoesTo expr.followed) slot fun next => store.intWith next expr slot := by
  cases expr with
  | reference i target use =>
    simp only [intWith, Expr.followed]
    exact .constant store i target use (.ok none)
  | construct i flavour arguments =>
    have cast := intOfCast_asks arguments slot
    have first := intOfFirst_asks arguments slot
    have among := intAmong_asks arguments slot
    simp only [intWith, Expr.followed]
    cases flavour with
    | scalarCast | compoundCast => exact .either cast (.answer (.ok none))
    | splat => exact first
    | diagonalMatrix => exact .either first (.answer (.ok none))
    | array | compound | struct => exact among
    | matrixResize => exact .answer (.ok none)
  | prefixed i op operand =>
    simp only [intWith, Expr.followed]
    exact .thenAsk (intWith_asks operand slot) fun value? => .answer (.ok _)
  | binary i left op right =>
    have leftAsks := intWith_asks left (operandSlot left slot)
    have rightAsks := intWith_asks right (operandSlot right slot)
    simp only [intWith, Expr.followed]
    refine .either (.answer (.ok none)) ?_
    refine .thenAsk (leftAsks.ofLeft (operandSlot_le left slot)) fun leftValue? => ?_
    cases leftValue? with
    | none => exact .answer (.ok none)
    | some leftValue =>
      refine .thenAsk (rightAsks.ofRight (operandSlot_le right slot)) fun rightValue? => ?_
      cases rightValue? with
      | none => exact .answer (.ok none)
      | some rightValue => exact .answer (.ok _)
  | _ =>
    simp only [intWith]
    exact .answer (.ok _)

theorem intOfCast_asks (arguments : List Expr) (slot : Nat) :
    Asks (store.GoesTo (Expr.followedAll arguments)) slot fun next =>
      store.intOfCast next arguments slot := by
  cases arguments with
  | nil =>
    simp only [intOfCast]
    exact .answer (.ok none)
  | cons argument rest =>
    simp only [intOfCast, Expr.followedAll]
    refine .either ?_ (.answer (.ok none))
    exact (intWith_asks argument slot).ofLeft (Nat.le_refl slot)

theorem intOfFirst_asks (arguments : List Expr) (slot : Nat) :
    Asks (store.GoesTo (Expr.followedAll arguments)) slot fun next =>
      store.intOfFirst next arguments := by
  cases arguments with
  | nil =>
    simp only [intOfFirst]
    exact .answer (.ok none)
  | cons argument rest =>
    simp only [intOfFirst, Expr.followedAll]
    exact (intWith_asks argument 0).ofLeft (Nat.zero_le slot)

theorem intAmong_asks (arguments : List Expr) (slot : Nat) :
    Asks (store.GoesTo (Expr.followedAll arguments)) slot fun next =>
      store.intAmong next arguments slot := by
  cases arguments with
  | nil =>
    simp only [intAmong]
    exact .answer (.ok none)
  | cons argument rest =>
    simp only [intAmong, Expr.followedAll]
    exact .among store (intWith_asks argument slot) fun count =>
      intAmong_asks rest (slot - count)

end

theorem intWithin_linked : Linked store store.intWithin where
  cut _ _ := rfl
  link expr slot := ⟨_, store.intWith_asks expr slot, fun _ => rfl⟩

/-- An answer over some links is the answer. -/
theorem intAt?_of_intWithin {store : Store} {bound slot : Nat} {expr : Expr}
    {answer : Option Int64} (answered : store.intWithin bound expr slot = .ok answer) :
    store.intAt? expr slot = .ok answer := by
  have proper : Proper (store.intWithin bound expr slot) := answered ▸ .ok answer
  rw [intAt?, store.intWithin_linked.bound_suffices proper, answered]

/-! ## Every query -/

/-- The number of initial values bounds the links over which a value is resolved. -/
theorem resolve_eq (expr : Expr) :
    store.resolve expr = store.resolveWithin (store.linkBound 0) expr := by
  rw [resolve, linkBound, Nat.zero_add, Nat.mul_one]

/-- Every query of an expression comes to an end, with the same answer for all the room it may have,
unless it comes to a constant that leads back to itself, where no room is enough. There are such
constants exactly if a value was attached to a variable to which it leads. -/
theorem queries_settle (expr : Expr) (slot : Nat) :
    Linked.Settles store expr (store.resolveWithin · expr) (store.resolve expr) ∧
      Linked.Settles store expr (store.literalWithin · expr slot) (store.literalAt? expr slot) ∧
      Linked.Settles store expr (store.intWithin · expr slot) (store.intAt? expr slot) ∧
      (store.Reached → (store.Orderly ↔ ∀ id, ¬store.Circular id)) := by
  refine ⟨?_, ?_, ?_, orderly_iff⟩
  · rw [resolve_eq]
    exact store.resolveWithin_linked.settles expr 0
  · exact store.literalWithin_linked.settles expr slot
  · exact store.intWithin_linked.settles expr slot

end Store

/-- `const int width = 3;` -/
def width : Variable :=
  { id := 74, modifiers := { flags := Modifiers.constFlag }, name := "width", type := Builtin.int,
    builtin := false, storage := .localScope }

/-- `const int shift = -width;` -/
def shift : Variable := { width with id := 75, name := "shift" }

def three : Expr := .ofPlainInt .nowhere 3

def minusWidth : Expr :=
  .prefixed ⟨.nowhere, Builtin.int⟩ .minus (.ofVariable .nowhere width .read)

namespace Store

def withWidth : Store := { initials := [(width.id, three)] }

def withShift : Store := { initials := [(shift.id, minusWidth), (width.id, three)] }

/-- A constant that stands for another one. -/
theorem withShift_settles :
    withShift.Reached ∧ withShift.Orderly ∧ (∀ id, ¬withShift.Circular id) ∧
      withShift.intAt? (.ofVariable .nowhere shift .read) 0 = .ok (some (-3)) := by
  have first : ({} : Store).attachInitial width three = .ok withWidth := rfl
  have second : withWidth.attachInitial shift minusWidth = .ok withShift := rfl
  have apart : ¬withWidth.Mentions minusWidth shift.id := by
    rw [mentions_iff]
    rintro (⟨target, followed, _, same⟩ | ⟨value, ⟨target, followed, _, found⟩, later⟩)
    · cases List.mem_singleton.mp followed
      cases same
    · cases List.mem_singleton.mp followed
      cases found
      exact not_mentions_of_followed rfl later
  have reached : withShift.Reached := .attach (.attach (.blank rfl) trivial first) trivial second
  have orderly : withShift.Orderly :=
    .attach (.attach (.blank rfl) (not_mentions_of_followed rfl) first) apart second
  have laws := withShift.queries_settle (.ofVariable .nowhere shift .read) 0
  exact ⟨reached, orderly, (laws.2.2.2 reached).mp orderly, by rfl⟩

/-- `const int width = width;` -/
def withLoop : Store := { initials := [(width.id, .ofVariable .nowhere width .read)] }

/-- No query of a constant that stands for itself comes to an end. -/
theorem withLoop_endless :
    ({} : Store).attachInitial width (.ofVariable .nowhere width .read) = .ok withLoop ∧
      withLoop.Reached ∧
      ∀ bound slot,
        withLoop.resolveWithin bound (.ofVariable .nowhere width .read) =
            .error .circularConstant ∧
          withLoop.literalWithin bound (.ofVariable .nowhere width .read) slot =
            .error .circularConstant ∧
          withLoop.intWithin bound (.ofVariable .nowhere width .read) slot =
            .error .circularConstant := by
  have attached : ({} : Store).attachInitial width (.ofVariable .nowhere width .read) =
      .ok withLoop := rfl
  have found : withLoop.constant? (.ofVariable .nowhere width .read) =
      some (.ofVariable .nowhere width .read) := rfl
  refine ⟨attached, .attach (.blank rfl) trivial attached, fun bound slot => ?_⟩
  induction bound with
  | zero => exact ⟨rfl, rfl, rfl⟩
  | succ bound inductionHypothesis =>
    obtain ⟨resolved, literal, int⟩ := inductionHypothesis
    rw [Expr.ofVariable] at found resolved literal int ⊢
    simp only [resolveWithin, literalWithin, literalWith, intWithin, intWith, found]
    exact ⟨resolved, literal, int⟩

end Store

end Shading
