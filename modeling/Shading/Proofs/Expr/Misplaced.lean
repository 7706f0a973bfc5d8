import Shading.Proofs.Expr.Conversion
import Shading.Proofs.Expr.Parts

/-!
Integers that are known at slots of other types. Literals, casts and operations have integers only
at slots of integer types. Constructor calls and constants take over what is known of an argument or
an initial value, whatever the type of the slot it comes to. So an integer is known at a slot of
another type exactly where it strayed there from a slot of an integer type. Main statement:
`Store.known_stray_iff`.
-/

namespace Shading

/-! ## Slots of integers -/

/-- The scalar at a slot of a type is an integer. -/
def Ty.IntegerAt (type : Ty) (slot : Nat) : Prop :=
  ∃ scalar, type.slotType slot = .ok scalar ∧ scalar.isInteger = true

namespace Ty

variable {type : Ty}

/-- A type with integers for components has integers at all slots. -/
theorem integerAt_of_component (integer : type.component.isInteger = true) (slot : Nat) :
    type.IntegerAt slot := by
  refine ⟨type.component, ?_, integer⟩
  cases type with
  | array head component size =>
    have one : component.slotCount = .ok 1 := slotCount_of_isScalar (isScalar_of_isInteger integer)
    rw [slotType, one]
    change component.slotType (slot % 1) = .ok component
    cases component with
    | scalar | literal => simp [slotType]
    | _ => cases integer
  | struct => cases integer
  | _ => simp [slotType, component]

theorem integerAt_of_isInteger (integer : type.isInteger = true) (slot : Nat) :
    type.IntegerAt slot := by
  have itself : type.component = type := component_of_isScalar (isScalar_of_isInteger integer)
  exact integerAt_of_component (by rwa [itself]) slot

end Ty

/-! ## What a slot takes over -/

/-- A slot of a row of arguments is a slot of one of them. -/
inductive Expr.LiesAt : List Expr → Nat → Expr → Nat → Prop where
  | here {argument : Expr} {rest : List Expr} {count slot : Nat}
      (counted : argument.type.slotCount = .ok count) (below : slot < count) :
      LiesAt (argument :: rest) slot argument slot
  | later {argument part : Expr} {rest : List Expr} {count slot inner : Nat}
      (counted : argument.type.slotCount = .ok count) (past : count ≤ slot)
      (lies : LiesAt rest (slot - count) part inner) : LiesAt (argument :: rest) slot part inner

namespace Store

/-- A slot of a constructor call or a constant takes over what is known at a slot of an argument or
of the initial value. -/
inductive Feeds (store : Store) : Expr → Nat → Expr → Nat → Prop where
  | splat {info : Expr.Info} {argument : Expr} {rest : List Expr} {slot : Nat} :
      Feeds store (.construct info .splat (argument :: rest)) slot argument 0
  | diagonal {info : Expr.Info} {argument : Expr} {rest : List Expr} {slot : Nat}
      (on : onDiagonal info.type.rows slot = true) :
      Feeds store (.construct info .diagonalMatrix (argument :: rest)) slot argument 0
  | row {info : Expr.Info} {flavour : Flavour} {arguments : List Expr} {part : Expr}
      {slot inner : Nat} (flat : flavour = .array ∨ flavour = .compound ∨ flavour = .struct)
      (lies : Expr.LiesAt arguments slot part inner) :
      Feeds store (.construct info flavour arguments) slot part inner
  | constant {info : Expr.Info} {target : Variable} {use : RefKind} {value : Expr} {slot : Nat}
      (found : store.constant? (.reference info target use) = some value) :
      Feeds store (.reference info target use) slot value slot

/-- An integer that is known at a slot of another type: it was taken over from a slot of an integer
type, or from one where it had strayed before. -/
inductive Strays (store : Store) : Expr → Nat → Int64 → Prop where
  | off {node part : Expr} {slot inner : Nat} {known : Int64}
      (feeds : store.Feeds node slot part inner) (integer : part.type.IntegerAt inner)
      (other : ¬node.type.IntegerAt slot)
      (answered : store.intAt? part inner = .ok (some known)) : Strays store node slot known
  | on {node part : Expr} {slot inner : Nat} {known : Int64}
      (feeds : store.Feeds node slot part inner) (other : ¬node.type.IntegerAt slot)
      (strays : Strays store part inner known) : Strays store node slot known
  | prefixed {info : Expr.Info} {op : Operator} {operand : Expr} {slot : Nat}
      {known result : Int64} (typed : info.type = operand.type)
      (folds : op.foldPrefix? known = some result) (strays : Strays store operand slot known) :
      Strays store (.prefixed info op operand) slot result

variable {store : Store} {node part expr : Expr} {slot inner bound : Nat} {known : Int64}

/-! ## Strays are known -/

theorem intAmong_of_liesAt {next : Query (Option Int64)} {arguments : List Expr}
    (lies : Expr.LiesAt arguments slot part inner) :
    store.intAmong next arguments slot = store.intWith next part inner := by
  induction lies with
  | here counted below =>
    rw [intAmong, counted]
    exact if_pos below
  | later counted past _ inductionHypothesis =>
    rw [intAmong, counted]
    exact (if_neg (Nat.not_lt_of_le past)).trans inductionHypothesis

theorem literalAmong_of_liesAt {next : Query (Option Expr)} {arguments : List Expr}
    (lies : Expr.LiesAt arguments slot part inner) :
    store.literalAmong next arguments slot = store.literalWith next part inner := by
  induction lies with
  | here counted below =>
    rw [literalAmong, counted]
    exact if_pos below
  | later counted past _ inductionHypothesis =>
    rw [literalAmong, counted]
    exact (if_neg (Nat.not_lt_of_le past)).trans inductionHypothesis

/-- What is known at a slot is known wherever it is taken over. -/
theorem Feeds.answered (feeds : store.Feeds node slot part inner)
    (answered : store.intAt? part inner = .ok (some known)) :
    store.intAt? node slot = .ok (some known) := by
  have proper : Proper (store.intAt? part inner) := answered ▸ .ok (some known)
  have onward : store.intWithin (store.linkBound inner + 1) part inner = .ok (some known) :=
    (store.intWithin_linked.succ_of_proper proper).trans answered
  have taken : store.intWithin (store.linkBound inner + 1) node slot = .ok (some known) := by
    rw [intWithin] at onward ⊢
    cases feeds with
    | splat => rwa [intWith, intOfFirst]
    | diagonal on => rwa [intWith, if_pos on, intOfFirst]
    | row flat lies =>
      rw [← intAmong_of_liesAt lies] at onward
      rcases flat with rfl | rfl | rfl <;> rwa [intWith]
    | constant found =>
      simp only [intWith, found]
      exact answered
  exact intAt?_of_intWithin taken

theorem Strays.answered (strays : store.Strays expr slot known) :
    store.intAt? expr slot = .ok (some known) ∧ ¬expr.type.IntegerAt slot := by
  induction strays with
  | off feeds integer other answered => exact ⟨feeds.answered answered, other⟩
  | on feeds other _ inductionHypothesis =>
    exact ⟨feeds.answered inductionHypothesis.1, other⟩
  | prefixed typed folds _ inductionHypothesis =>
    refine ⟨?_, ?_⟩
    · have answered := inductionHypothesis.1
      rw [Store.intAt?, linkBound, intWithin] at answered ⊢
      rw [intWith, answered]
      exact congrArg Except.ok folds
    · intro integer
      exact inductionHypothesis.2 (typed ▸ integer)

/-! ## What is known elsewhere strayed -/

theorem exists_liesAt {next : Query (Option Int64)} {arguments : List Expr}
    (answered : store.intAmong next arguments slot = .ok (some known)) :
    ∃ part ∈ arguments, ∃ inner, Expr.LiesAt arguments slot part inner ∧
      store.intWith next part inner = .ok (some known) := by
  induction arguments generalizing slot with
  | nil => simp [intAmong] at answered
  | cons argument rest inductionHypothesis =>
    rw [intAmong] at answered
    obtain ⟨count, counted, answered⟩ := Stepping.exists_of_bind_ok answered
    by_cases below : slot < count
    · rw [if_pos below] at answered
      exact ⟨argument, List.mem_cons_self, slot, .here counted below, answered⟩
    · rw [if_neg below] at answered
      obtain ⟨part, member, inner, lies, found⟩ := inductionHypothesis answered
      exact ⟨part, List.mem_cons_of_mem argument member, inner,
        .later counted (Nat.le_of_not_lt below) lies, found⟩

/-- A constructor call answers with what is known of an argument. Casts do so at slots of integer
types only. -/
theorem construct_cases {next : Query (Option Int64)} {info : Expr.Info} {flavour : Flavour}
    {arguments : List Expr}
    (answered : store.intWith next (.construct info flavour arguments) slot = .ok (some known)) :
    info.type.IntegerAt slot ∨
      ∃ part ∈ arguments, ∃ inner,
        store.Feeds (.construct info flavour arguments) slot part inner ∧
        store.intWith next part inner = .ok (some known) := by
  have first (found : store.intOfFirst next arguments = .ok (some known)) :
      ∃ part rest, arguments = part :: rest ∧ store.intWith next part 0 = .ok (some known) := by
    cases arguments with
    | nil => simp [intOfFirst] at found
    | cons part rest => exact ⟨part, rest, rfl, by rwa [intOfFirst] at found⟩
  have row (flat : flavour = .array ∨ flavour = .compound ∨ flavour = .struct)
      (found : store.intAmong next arguments slot = .ok (some known)) :
      ∃ part ∈ arguments, ∃ inner,
        store.Feeds (.construct info flavour arguments) slot part inner ∧
        store.intWith next part inner = .ok (some known) := by
    obtain ⟨part, member, inner, lies, found⟩ := exists_liesAt found
    exact ⟨part, member, inner, .row flat lies, found⟩
  simp only [intWith] at answered
  cases flavour with
  | scalarCast | compoundCast =>
    by_cases integer : info.type.component.isInteger = true
    · exact Or.inl (Ty.integerAt_of_component integer slot)
    · simp [integer] at answered
  | splat =>
    obtain ⟨part, rest, rfl, found⟩ := first answered
    exact Or.inr ⟨part, List.mem_cons_self, 0, .splat, found⟩
  | diagonalMatrix =>
    by_cases on : onDiagonal info.type.rows slot = true
    · simp only [on, if_true] at answered
      obtain ⟨part, rest, rfl, found⟩ := first answered
      exact Or.inr ⟨part, List.mem_cons_self, 0, .diagonal on, found⟩
    · simp [on] at answered
  | array | compound | struct => exact Or.inr (row (by simp) answered)
  | matrixResize => simp at answered

/-- An integer is known at a slot of an integer type, or it strayed. -/
def Placed (store : Store) (expr : Expr) (slot : Nat) (known : Int64) : Prop :=
  expr.type.IntegerAt slot ∨ store.Strays expr slot known

theorem Placed.taken (placed : store.Placed part inner known)
    (feeds : store.Feeds node slot part inner)
    (answered : store.intAt? part inner = .ok (some known)) : store.Placed node slot known := by
  by_cases integer : node.type.IntegerAt slot
  · exact Or.inl integer
  · rcases placed with inside | strays
    · exact Or.inr (.off feeds inside integer answered)
    · exact Or.inr (.on feeds integer strays)

theorem Placed.prefixed {info : Expr.Info} {op : Operator} {operand : Expr} {result : Int64}
    (placed : store.Placed operand slot known) (typed : info.type = operand.type)
    (folds : op.foldPrefix? known = some result) :
    store.Placed (.prefixed info op operand) slot result := by
  rcases placed with inside | strays
  · refine Or.inl ?_
    change info.type.IntegerAt slot
    rwa [typed]
  · exact Or.inr (.prefixed typed folds strays)

theorem followed_subset_followedAll {argument : Expr} {arguments : List Expr}
    (member : argument ∈ arguments) : argument.followed ⊆ Expr.followedAll arguments := by
  induction arguments with
  | nil => cases member
  | cons first rest inductionHypothesis =>
    rw [Expr.followedAll]
    rcases List.mem_cons.mp member with rfl | later
    · exact List.subset_append_left _ _
    · exact List.subset_append_of_subset_right _ (inductionHypothesis later)

/-- One link. The induction is on the typing, which tells what is a literal of an integer type; the
values of constants are left to `onward`. -/
theorem placed_of_link {context : Context} (typed : expr.WellTyped context)
    (onward : ∀ value, store.GoesTo expr.followed value → ∀ slot known,
      store.intWithin bound value slot = .ok (some known) → store.Placed value slot known)
    (answered : store.intWithin (bound + 1) expr slot = .ok (some known)) :
    store.Placed expr slot known := by
  induction typed generalizing slot known with
  | intLiteral integer => exact Or.inl (Ty.integerAt_of_isInteger integer slot)
  | @binary info left right op =>
    rw [intWithin, intWith] at answered
    by_cases integer : info.type.component.isInteger = true
    · exact Or.inl (Ty.integerAt_of_component integer slot)
    · simp [integer] at answered
  | @prefixed info op operand _ typed inductionHypothesis =>
    rw [intWithin, intWith] at answered
    obtain ⟨inside?, found, folded⟩ := Stepping.exists_of_bind_ok answered
    obtain ⟨inside, rfl, folds⟩ := Option.bind_eq_some_iff.mp (Except.ok.inj folded)
    exact (inductionHypothesis onward found).prefixed typed folds
  | @construct info flavour arguments _ _ inductionHypothesis =>
    rcases construct_cases answered with integer | ⟨part, member, inner, feeds, found⟩
    · exact Or.inl integer
    · have inside : store.intWithin (bound + 1) part inner = .ok (some known) := found
      have placed := inductionHypothesis part member
        (fun value goes => onward value (goes.of_subset (followed_subset_followedAll member)))
        inside
      exact placed.taken feeds (intAt?_of_intWithin inside)
  | @reference info target use =>
    rw [intWithin] at answered
    cases found : store.constant? (.reference info target use) with
    | none => simp [intWith, found] at answered
    | some value =>
      simp only [intWith, found] at answered
      have placed := onward value (store.goesTo_of_constant? found) slot known answered
      exact placed.taken (.constant found) (intAt?_of_intWithin answered)
  | _ =>
    rw [intWithin] at answered
    simp [intWith] at answered

theorem placed_of_intWithin
    (typed : ∀ value, store.LeadsTo expr value → ∃ context : Context, value.WellTyped context)
    (answered : store.intWithin bound expr slot = .ok (some known)) :
    store.Placed expr slot known := by
  induction bound generalizing expr slot known with
  | zero => cases answered
  | succ bound inductionHypothesis =>
    obtain ⟨context, here⟩ := typed expr (.here expr)
    refine placed_of_link here (fun value goes slot known found => ?_) answered
    exact inductionHypothesis (fun last later => typed last (.on goes later)) found

/-- An integer that is known at a slot of another type is one that strayed there, and each one that
strays is known. -/
theorem known_stray_iff
    (built : ∀ value, store.LeadsTo expr value →
      ∃ context : Context, value.Built context Ty.Standard) (slot : Nat) (known : Int64) :
    (store.intAt? expr slot = .ok (some known) ∧ ¬expr.type.IntegerAt slot) ↔
      store.Strays expr slot known := by
  refine ⟨fun ⟨answered, other⟩ => ?_, Strays.answered⟩
  have typed (value : Expr) (leads : store.LeadsTo expr value) :
      ∃ context : Context, value.WellTyped context := by
    obtain ⟨context, made⟩ := built value leads
    exact ⟨context, made.wellTyped⟩
  exact (placed_of_intWithin typed answered).resolve_left other

end Store

def floatPair : Ty := Builtin.vectorOf Builtin.float 2 13

theorem floatPair_standard : floatPair.Standard :=
  .builtin (List.mem_of_getElem? (i := 13) rfl)

/-- `float2(width)`, a constant that is spread. -/
def spreadWidth : Expr :=
  .construct ⟨.nowhere, floatPair⟩ .splat [.ofVariable .nowhere width .read]

theorem spreadWidth_built (value : Expr) (leads : Store.withWidth.LeadsTo spreadWidth value) :
    ∃ context : Context, value.Built context Ty.Standard := by
  rcases leads with _ | ⟨⟨target, followed, _, found⟩, later⟩
  · have made : Expr.constructOf .nowhere .splat floatPair [.ofVariable .nowhere width .read] =
        .ok spreadWidth := by rfl
    exact ⟨{}, .constructOf floatPair_standard
      (List.forall_mem_singleton.mpr (.ofVariable .nowhere width .read)) made⟩
  · cases List.mem_singleton.mp followed
    cases found
    rcases later with _ | ⟨⟨_, followed, _⟩, _⟩
    · exact ⟨{}, .ofPlainInt .nowhere 3⟩
    · cases followed

/-- The integer of a constant strays where it is spread over a vector of floats. -/
theorem spreadWidth_strays :
    (∀ value, Store.withWidth.LeadsTo spreadWidth value →
        ∃ context : Context, value.Built context Ty.Standard) ∧
      ((Store.withWidth.intAt? spreadWidth 1 = .ok (some 3) ∧
          ¬spreadWidth.type.IntegerAt 1) ↔ Store.withWidth.Strays spreadWidth 1 3) ∧
      Store.withWidth.Strays spreadWidth 1 3 := by
  have strays_iff := Store.known_stray_iff spreadWidth_built 1 3
  have other : ¬spreadWidth.type.IntegerAt 1 := by
    rintro ⟨scalar, found, integer⟩
    cases found
    cases integer
  exact ⟨spreadWidth_built, strays_iff, strays_iff.mp ⟨by rfl, other⟩⟩

/-- `float2(1)` -/
def spreadOne : Expr := .construct ⟨.nowhere, floatPair⟩ .splat [.ofPlainInt .nowhere 1]

/-- An integer is known at a slot of type `float` of what a builder made. -/
theorem spreadOne_known :
    spreadOne.Built {} Ty.Standard ∧ spreadOne.type.slotCount = .ok 2 ∧
      Store.intAt? {} spreadOne 0 = .ok (some 1) ∧
      spreadOne.type.slotType 0 = .ok Builtin.float ∧ Builtin.float.isInteger = false := by
  have made : Expr.constructOf .nowhere .splat floatPair [.ofPlainInt .nowhere 1] =
      .ok spreadOne := by rfl
  exact ⟨.constructOf floatPair_standard
    (List.forall_mem_singleton.mpr (.ofPlainInt .nowhere 1)) made, by rfl, by rfl, by rfl, by rfl⟩

end Shading
