import Shading.Proofs.Expr.Conversion
import Shading.Proofs.Expr.Range

/-!
Known integers under implicit conversion. A conversion leaves an expression alone, converts the
literal that it is or that it spreads, or puts a cast on top of it. Each of these answers a query
for a slot from the same literals, constants and operations as before, so that between integer types
no known integer is lost. Main statement: `Ty.coerce_keeps`.
-/

namespace Shading

namespace Ty

variable {source target : Ty} {allowNarrowing : Bool}

/-- Of the types with integers only scalars, vectors and matrices convert to other types. -/
theorem isShaped_of_convertsTo (integer : source.component.isInteger = true)
    (different : (source == target) = false)
    (converts : source.convertsTo target allowNarrowing = true) : source.isShaped = true := by
  cases source with
  | scalar | literal | vector | matrix => rfl
  | array =>
    rw [convertsTo, costTo_plain target rfl rfl, different] at converts
    simp [isNumber, numberKind, choices, Cost.isPossible] at converts
  | _ => cases integer

end Ty

/-- A loop that comes to a mistake does not answer that there is none. -/
theorem reportMistakes_ne_false {mistakeAt : Nat → Except Fault (Option Diagnostic)}
    {count slot : Nat} {found : Bool} {queue : DiagnosticQueue}
    (reported : found = true ∨ ∃ inner mistake, slot ≤ inner ∧ inner < slot + count ∧
      mistakeAt inner = .ok (some mistake)) :
    (reportMistakes mistakeAt count slot found queue).1 ≠ .ok false := by
  induction count generalizing slot found queue with
  | zero =>
    rcases reported with rfl | ⟨inner, _, above, below, _⟩
    · simp [reportMistakes]
    · omega
  | succ count inductionHypothesis =>
    rw [reportMistakes]
    cases here : mistakeAt slot with
    | error fault => simp
    | ok mistake? =>
      cases mistake? with
      | some other => exact inductionHypothesis (Or.inl rfl)
      | none =>
        refine inductionHypothesis ?_
        rcases reported with earlier | ⟨inner, mistake, above, below, mistaken⟩
        · exact Or.inl earlier
        · have different : slot ≠ inner := by
            rintro rfl
            rw [here] at mistaken
            cases mistaken
          exact Or.inr ⟨inner, mistake, by omega, by omega, mistaken⟩

namespace Store

/-- Whatever integer is known at a slot of an expression is known there of another one, over any
number of links. -/
def Keeps (store : Store) (expr converted : Expr) : Prop :=
  ∀ (next : Query (Option Int64)) slot value, store.intWith next expr slot = .ok (some value) →
    store.intWith next converted slot = .ok (some value)

/-- The integer that a check of the range of an expression finds at a slot. The check goes on to the
value that the expression stands for, and looks at each of its slots. -/
def Sees (store : Store) (expr : Expr) (slot : Nat) (known : Int64) : Prop :=
  ∃ value slots, store.resolve expr = .ok value ∧ value.type.slotCount = .ok slots ∧
    slot < slots ∧ store.intAt? value slot = .ok (some known)

/-- What a cast to a type makes of an expression: it has the type, it is not a constant that stands
for something else, and all integers are still known. -/
structure Casts (store : Store) (expr : Expr) (type : Ty) (converted : Expr) : Prop where
  keeps : store.Keeps expr converted
  typed : converted.type = type
  itself : store.constant? converted = none

variable {store : Store} {expr converted : Expr} {slot : Nat} {known : Int64}

theorem Keeps.intAt? (keeps : store.Keeps expr converted)
    (answered : store.intAt? expr slot = .ok (some known)) :
    store.intAt? converted slot = .ok (some known) :=
  keeps (store.intWithin (store.initials.length * (slot + 1))) slot known answered

/-- An integer that a check sees and the type there does not hold is not passed over. -/
theorem Sees.reported {type scalar : Ty} (seen : store.Sees expr slot known)
    (typed : type.slotType slot = .ok scalar) (misfits : ¬scalar.Holds known)
    (queue : DiagnosticQueue) : (type.checkRange store expr queue).1 ≠ .ok false := by
  obtain ⟨value, slots, resolved, counted, below, answered⟩ := seen
  have misfit : store.misfit? type value slot = some known := by
    rw [misfit?, typed, answered]
    exact if_pos (Ty.excludes_iff.mpr misfits)
  have mistaken : type.mistakeAt? store expr.span value slots slot =
      .ok (some (type.rangeMistake expr.span slots slot known)) := by
    rw [mistakeAt?_eq typed answered, misfit]
    rfl
  rw [Ty.checkRange_of_resolve resolved counted]
  exact reportMistakes_ne_false (Or.inr ⟨slot, _, Nat.zero_le slot, by omega, mistaken⟩)

/-! ## Resolved values -/

theorem intWithin_of_resolve {bound : Nat} {value : Expr} {answer : Option Int64}
    (resolved : store.resolveWithin bound expr = .ok value)
    (answered : store.intAt? value slot = .ok answer) :
    ∃ more, store.intWithin more expr slot = .ok answer := by
  induction bound generalizing expr with
  | zero => cases resolved
  | succ bound inductionHypothesis =>
    rw [resolveWithin] at resolved
    cases found : store.constant? expr with
    | none =>
      rw [found] at resolved
      cases resolved
      exact ⟨store.linkBound slot, answered⟩
    | some onward =>
      rw [found] at resolved
      obtain ⟨more, later⟩ := inductionHypothesis resolved
      refine ⟨more + 1, ?_⟩
      cases expr with
      | reference info target use => simpa only [intWithin, intWith, found] using later
      | _ => cases found

/-- What is known of the value that an expression stands for is known of the expression. -/
theorem intAt?_of_resolve {value : Expr} {answer : Option Int64}
    (resolved : store.resolve expr = .ok value)
    (answered : store.intAt? value slot = .ok answer) :
    store.intAt? expr slot = .ok answer := by
  obtain ⟨more, found⟩ := intWithin_of_resolve resolved answered
  exact intAt?_of_intWithin found

theorem resolve_itself (itself : store.constant? expr = none) :
    store.resolve expr = .ok expr := by
  simp only [resolve, resolveWithin, itself]

/-- A check of what a cast made sees all that it saw before, at the slots that both types have. -/
theorem Casts.sees {type : Ty} {count : Nat} (casts : store.Casts expr type converted)
    (counted : type.slotCount = .ok count) (below : slot < count)
    (seen : store.Sees expr slot known) : store.Sees converted slot known := by
  obtain ⟨value, slots, resolved, _, _, answered⟩ := seen
  refine ⟨converted, count, resolve_itself casts.itself, ?_, below, ?_⟩
  · rw [casts.typed, counted]
  · exact casts.keeps.intAt? (intAt?_of_resolve resolved answered)

/-! ## The casts -/

section Casts

variable {span : Span} {type : Ty} {argument : Expr}

/-- An integer literal stays exact on the way to another integer type, and of other literals no
integer is known. -/
theorem castLiteral?_casts {literal : Expr} (integer : type.isInteger = true)
    (folded : Expr.castLiteral? span type literal = some converted) :
    store.Casts literal type converted := by
  have number : type.isBoolean = false := by
    rw [Ty.isInteger] at integer
    rw [Ty.isBoolean]
    cases kind : type.numberKind with
    | signed | unsigned => rfl
    | _ => simp [kind] at integer
  cases literal with
  | boolLiteral | floatLiteral =>
    simp only [Expr.castLiteral?, Expr.literalNumber?, number, integer, Bool.false_eq_true,
      if_true, if_false, Option.some.injEq] at folded
    subst folded
    exact ⟨fun next slot value answered => by simp [intWith] at answered, rfl, rfl⟩
  | intLiteral =>
    simp only [Expr.castLiteral?, Expr.literalNumber?, number, integer, Bool.false_eq_true,
      if_true, if_false, Option.some.injEq] at folded
    subst folded
    exact ⟨fun next slot value answered => by
      simpa [intWith, Expr.intLiteral?] using answered, rfl, rfl⟩
  | _ => simp [Expr.castLiteral?, Expr.literalNumber?] at folded

/-- A cast on top of an expression answers what the expression does, between integer types. -/
theorem castNode_casts {flavour : Flavour}
    (cast : flavour = .scalarCast ∨ flavour = .compoundCast)
    (source : argument.type.component.isInteger = true)
    (integer : type.component.isInteger = true) :
    store.Casts argument type (.construct ⟨span, type⟩ flavour [argument]) := by
  refine ⟨fun next slot value answered => ?_, rfl, rfl⟩
  rcases cast with rfl | rfl <;> simpa [intWith, intOfCast, integer, source] using answered

theorem scalarCast_casts (source : argument.type.component.isInteger = true)
    (integer : type.component.isInteger = true) (different : (argument.type == type) = false)
    (made : Expr.scalarCast span type argument = .ok converted) :
    store.Casts argument type converted := by
  obtain ⟨scalars, rest⟩ := passed_of_ensure made
  have scalar := (Bool.and_eq_true_iff.mp scalars).1
  rw [different, if_neg Bool.false_ne_true] at rest
  cases folded? : Expr.castLiteral? span type argument with
  | some folded =>
    rw [folded?] at rest
    cases rest
    exact castLiteral?_casts (Ty.component_of_isScalar scalar ▸ integer) folded?
  | none =>
    rw [folded?] at rest
    cases rest
    exact castNode_casts (Or.inl rfl) source integer

/-- A spread literal is converted below the spread, and all else gets a cast on top. -/
theorem compoundCast_casts (source : argument.type.component.isInteger = true)
    (integer : type.component.isInteger = true) (different : (argument.type == type) = false)
    (made : Expr.compoundCast span type argument = .ok converted) :
    store.Casts argument type converted := by
  obtain ⟨_, rest⟩ := passed_of_ensure made
  rw [different, if_neg Bool.false_ne_true] at rest
  dsimp only at rest
  cases folded? : argument.splatScalar?.bind fun scalar =>
      Expr.castLiteral? scalar.span type.component scalar with
  | some folded =>
    rw [folded?] at rest
    cases rest
    obtain ⟨scalar, spread, cast⟩ := Option.bind_eq_some_iff.mp folded?
    have inner : store.Casts scalar type.component folded := castLiteral?_casts integer cast
    refine ⟨fun next slot value answered => ?_, rfl, rfl⟩
    rw [Expr.splatScalar?.eq_def] at spread
    split at spread
    · cases spread
      rw [intWith, intOfFirst] at answered ⊢
      exact inner.keeps next 0 value answered
    · cases spread
  | none =>
    rw [folded?] at rest
    cases rest
    exact castNode_casts (Or.inr rfl) source integer

end Casts

end Store

namespace Ty

variable {store : Store} {context : Context} {target : Ty} {expr converted : Expr}
  {queue after : DiagnosticQueue}

theorem isBareName_of_coerced (made : target.coerced context expr = .ok (.ok converted)) :
    expr.isBareName = false := by
  cases expr with
  | functionName | typeName => cases made
  | _ => rfl

/-- An expression that is converted to a type other than its own is cast, to a type with as many
slots. -/
theorem casts_of_coerced (source : expr.type.component.isInteger = true)
    (integer : target.component.isInteger = true) (different : (expr.type == target) = false)
    (made : target.coerced context expr = .ok (.ok converted)) :
    store.Casts expr target converted ∧ expr.type.slotCount = target.slotCount := by
  rw [coerced_of_value (isBareName_of_coerced made), different, if_neg Bool.false_ne_true] at made
  by_cases converts : expr.type.convertsTo target context.allowNarrowing = true
  · have shaped := isShaped_of_convertsTo source different converts
    rw [converts, Bool.not_true, if_neg Bool.false_ne_true] at made
    by_cases scalar : target.isScalar = true
    · rw [if_pos scalar] at made
      obtain ⟨other, cast, same⟩ := Stepping.exists_of_map_ok made
      cases same
      have scalars := (passed_of_ensure cast).1
      rw [Bool.and_eq_true] at scalars
      refine ⟨Store.scalarCast_casts source integer different cast, ?_⟩
      rw [slotCount_of_isScalar scalars.2, slotCount_of_isScalar scalar]
    · rw [if_neg scalar] at made
      by_cases compound : (target.isVector || target.isMatrix) = true
      · rw [if_pos compound] at made
        obtain ⟨other, cast, same⟩ := Stepping.exists_of_map_ok made
        cases same
        have shapes := (passed_of_ensure cast).1
        simp only [Bool.and_eq_true, beq_iff_eq] at shapes
        refine ⟨Store.compoundCast_casts source integer different cast, ?_⟩
        rw [slotCount_of_isShaped shaped, slotCount_of_isShaped (isShaped_of_compound compound),
          shapes.1.2, shapes.2]
      · rw [if_neg compound] at made
        cases made
  · rw [Bool.not_eq_true] at converts
    rw [converts] at made
    cases made

/-- An integer that is known at a slot of an expression is known there of what the expression is
converted to, whatever the slot. At the slots that the expression has, so at those below its number
of slots, a later check of the range goes on to see it, and does not pass it over where the type to
check for does not hold it. The types of the conversion are any with integers for components. -/
theorem coerce_keeps (source : expr.type.component.isInteger = true)
    (integer : target.component.isInteger = true)
    (made : target.coerce context expr queue = .ok (some converted, after)) :
    (∀ slot known, store.intAt? expr slot = .ok (some known) →
      store.intAt? converted slot = .ok (some known)) ∧
    ∀ count, expr.type.slotCount = .ok count → ∀ slot < count, ∀ known,
      store.Sees expr slot known → store.Sees converted slot known ∧
        ∀ type scalar : Ty, type.slotType slot = .ok scalar → ¬scalar.Holds known →
          ∀ queue, (type.checkRange store converted queue).1 ≠ .ok false := by
  obtain ⟨outcome, found, rest⟩ := Stepping.exists_of_bind_ok made
  cases outcome with
  | error diagnostic => cases rest
  | ok other =>
    cases rest
    have kept : (∀ slot known, store.intAt? expr slot = .ok (some known) →
        store.intAt? converted slot = .ok (some known)) ∧
        ∀ count, expr.type.slotCount = .ok count → ∀ slot < count, ∀ known,
          store.Sees expr slot known → store.Sees converted slot known := by
      by_cases same : (expr.type == target) = true
      · rw [coerced_of_beq (isBareName_of_coerced found) same] at found
        cases found
        exact ⟨fun slot known answered => answered, fun _ _ slot _ known seen => seen⟩
      · rw [Bool.not_eq_true] at same
        obtain ⟨casts, slots⟩ :
            store.Casts expr target converted ∧ expr.type.slotCount = target.slotCount :=
          casts_of_coerced source integer same found
        refine ⟨fun slot known answered => casts.keeps.intAt? answered, ?_⟩
        intro count counted slot below known seen
        exact casts.sees (slots ▸ counted) below seen
    refine ⟨kept.1, fun count counted slot below known seen => ?_⟩
    have onward := kept.2 count counted slot below known seen
    exact ⟨onward, fun type scalar typed misfits => onward.reported typed misfits⟩

end Ty

/-- `short2(bright)` -/
def shortBright : Expr := .construct ⟨.nowhere, shortPair⟩ .compoundCast [brightName]

/-- The integers of a constant are seen through a cast to a narrower type. -/
theorem shortBright_keeps :
    brightName.type.component.isInteger = true ∧ shortPair.component.isInteger = true ∧
      shortPair.coerce { allowNarrowing := true } brightName {} = .ok (some shortBright, {}) ∧
      ((∀ slot known, withBright.intAt? brightName slot = .ok (some known) →
          withBright.intAt? shortBright slot = .ok (some known)) ∧
        ∀ count, brightName.type.slotCount = .ok count → ∀ slot < count, ∀ known,
          withBright.Sees brightName slot known → withBright.Sees shortBright slot known ∧
            ∀ type scalar : Ty, type.slotType slot = .ok scalar → ¬scalar.Holds known →
              ∀ queue, (type.checkRange withBright shortBright queue).1 ≠ .ok false) ∧
      withBright.intAt? brightName 0 = .ok (some 300) ∧ withBright.Sees brightName 0 300 := by
  have made : shortPair.coerce { allowNarrowing := true } brightName {} =
      .ok (some shortBright, {}) := by rfl
  have seen : withBright.Sees brightName 0 300 := ⟨brightValue, 2, by rfl, by rfl, by omega, by rfl⟩
  exact ⟨rfl, rfl, made, Ty.coerce_keeps rfl rfl made, by rfl, seen⟩

end Shading
