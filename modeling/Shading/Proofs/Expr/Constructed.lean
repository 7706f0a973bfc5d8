import Shading.Proofs.Expr.Folding
import Shading.Proofs.Expr.Misplaced
import Shading.Proofs.Type.Equality

/-!
What constructor calls give. It is of the type that was asked for, but for the scalar that a splat
hands on. The arguments of a vector or matrix fill its slots one after the other; those of an array
or struct do if each of them is as large as the element or member it stands for, which is not
checked. Main statements: `Expr.constructOf_type` and `Expr.constructOf_fills`.
-/

namespace Shading

namespace Expr

variable {span : Span} {flavour kind : Flavour} {type : Ty} {arguments parts : List Expr}
  {part expr : Expr} {info : Expr.Info} {slot inner : Nat} {counts : List Nat}

/-! ## The type -/

theorem not_isScalar_of_compound (compound : (type.isVector || type.isMatrix) = true) :
    type.isScalar = false := by
  cases type with
  | vector | matrix => rfl
  | _ => cases compound

/-- A constructor call is of the type that was asked for, unless it is a splat to a scalar type:
that is its argument as it is, which may be of any scalar type. -/
theorem constructOf_type (made : constructOf span flavour type arguments = .ok expr) :
    (¬(flavour = .splat ∧ type.isScalar = true) → (expr.type == type) = true) ∧
      (flavour = .splat → type.isScalar = true →
        arguments = [expr] ∧ expr.type.isScalar = true) := by
  cases constructed_of_constructOf made with
  | node fits =>
    refine ⟨fun _ => Ty.beq_self type, ?_⟩
    rintro rfl scalar
    cases fits with
    | splat target =>
      rw [not_isScalar_of_compound target] at scalar
      cases scalar
  | itself same =>
    exact ⟨fun _ => same, fun _ scalar => ⟨rfl, (Ty.isScalar_congr same).trans scalar⟩⟩
  | foldedSplat => exact ⟨fun _ => Ty.beq_self type, nofun⟩
  | folded cast =>
    refine ⟨fun _ => ?_, nofun⟩
    rw [type_of_castLiteral? cast]
    exact Ty.beq_self type
  | scalar target scalar =>
    exact ⟨fun other => absurd ⟨rfl, target⟩ other, fun _ _ => ⟨rfl, scalar⟩⟩

/-- `half(3)`, which is `3.0` -/
def halfThree : Expr := .floatLiteral ⟨.nowhere, Builtin.half⟩ (.ofInt64 3)

theorem halfThree_type :
    constructOf .nowhere .scalarCast Builtin.half [.ofPlainInt .nowhere 3] = .ok halfThree ∧
      (halfThree.type == Builtin.half) = true := by
  have made : constructOf .nowhere .scalarCast Builtin.half [.ofPlainInt .nowhere 3] =
      .ok halfThree := by rfl
  exact ⟨made, (constructOf_type made).1 nofun⟩

/-- A splat of an integer to `float` stays an integer. -/
theorem splat_keeps_type :
    constructOf .nowhere .splat Builtin.float [.ofPlainInt .nowhere 1] =
        .ok (.ofPlainInt .nowhere 1) ∧
      ((ofPlainInt .nowhere 1).type == Builtin.float) = false :=
  ⟨by rfl, by rfl⟩

/-! ## The slots -/

/-- Queries for constants go on from a slot of a row of parts to a slot of one of them. -/
def Attributed (parts : List Expr) (slot : Nat) : Prop :=
  ∃ part ∈ parts, ∃ inner, LiesAt parts slot part inner ∧ ∀ store : Store,
    (∀ next, store.literalAmong next parts slot = store.literalWith next part inner) ∧
      ∀ next, store.intAmong next parts slot = store.intWith next part inner

theorem LiesAt.mem (lies : LiesAt parts slot part inner) : part ∈ parts := by
  induction lies with
  | here => exact List.mem_cons_self
  | later _ _ _ inductionHypothesis => exact List.mem_cons_of_mem _ inductionHypothesis

theorem LiesAt.attributed (lies : LiesAt parts slot part inner) : Attributed parts slot :=
  ⟨part, lies.mem, inner, lies,
    fun _ => ⟨fun _ => Store.literalAmong_of_liesAt lies, fun _ => Store.intAmong_of_liesAt lies⟩⟩

theorem LiesAt.lt_sum (lies : LiesAt parts slot part inner)
    (counted : parts.map (·.type.slotCount) = counts.map Except.ok) : slot < counts.sum := by
  induction lies generalizing counts with
  | here here below =>
    cases counts with
    | nil => cases counted
    | cons count rest =>
      cases here.symm.trans (List.cons.inj counted).1
      rw [List.sum_cons]
      omega
  | later here past _ inductionHypothesis =>
    cases counts with
    | nil => cases counted
    | cons count rest =>
      cases here.symm.trans (List.cons.inj counted).1
      have below := inductionHypothesis (List.cons.inj counted).2
      rw [List.sum_cons]
      omega

theorem exists_liesAt_of_lt_sum
    (counted : parts.map (·.type.slotCount) = counts.map Except.ok) (below : slot < counts.sum) :
    ∃ part inner, LiesAt parts slot part inner := by
  induction parts generalizing counts slot with
  | nil =>
    cases counts with
    | nil => exact absurd below (Nat.not_lt_zero slot)
    | cons => cases counted
  | cons first others inductionHypothesis =>
    cases counts with
    | nil => cases counted
    | cons count rest =>
      obtain ⟨here, later⟩ := List.cons.inj counted
      by_cases inside : slot < count
      · exact ⟨first, slot, .here here inside⟩
      · have left : slot - count < rest.sum := by
          rw [List.sum_cons] at below
          omega
        obtain ⟨part, inner, lies⟩ := inductionHypothesis later left
        exact ⟨part, inner, .later here (Nat.le_of_not_lt inside) lies⟩

/-- The slots of a row of parts are as many as all the parts have together. -/
theorem attributed_iff_lt_sum
    (counted : parts.map (·.type.slotCount) = counts.map Except.ok) :
    Attributed parts slot ↔ slot < counts.sum := by
  constructor
  · rintro ⟨_, _, _, lies, _⟩
    exact lies.lt_sum counted
  · intro below
    obtain ⟨_, _, lies⟩ := exists_liesAt_of_lt_sum counted below
    exact lies.attributed

/-- The slots of a type are those of a row of parts: their numbers add up, and each slot is one of a
part. -/
structure FillsSlots (parts : List Expr) (type : Ty) : Prop where
  added : ∀ total, type.slotCount = .ok total →
    ∃ counts : List Nat, parts.map (·.type.slotCount) = counts.map Except.ok ∧ counts.sum = total
  attributed : ∀ total, type.slotCount = .ok total → ∀ slot < total, Attributed parts slot

theorem FillsSlots.of_added (added : ∀ total, type.slotCount = .ok total →
    ∃ counts : List Nat, parts.map (·.type.slotCount) = counts.map Except.ok ∧
      counts.sum = total) : FillsSlots parts type where
  added := added
  attributed := by
    intro total counted slot below
    obtain ⟨counts, same, rfl⟩ := added total counted
    exact (attributed_iff_lt_sum same).mpr below

/-- An argument that a constructor call takes although it has fewer or more slots than what it
stands for: an element whose type only looks like that of the array, or any member of a struct. -/
inductive Misfit (type : Ty) : Flavour → List Expr → Prop where
  | element {parts : List Expr} {part : Expr} (given : part ∈ parts)
      (equal : (part.type == type.component) = true)
      (other : part.type.slotCount ≠ type.component.slotCount) : Misfit type .array parts
  | member {parts : List Expr} {part : Expr} {target : Member}
      (given : (part, target) ∈ parts.zip type.members)
      (other : part.type.slotCount ≠ target.type.slotCount) : Misfit type .struct parts

/-- Parts that are as large as what they stand for fill the slots of what is made of them. -/
theorem Constructs.fillsSlots (constructs : Constructs info.type kind parts)
    (row : kind ∈ [.array, .compound, .struct]) (sized : info.type.arraySize? ≠ some .unsized)
    (filled : (construct info kind parts).Filled) : FillsSlots parts info.type := by
  obtain ⟨span, type⟩ := info
  refine .of_added fun total counted => ?_
  cases constructs with
  | array isArray complete _ =>
    cases type with
    | array =>
      rcases Ty.slotCount_array counted with ⟨rfl, -⟩ | ⟨count, each, rfl, inside, rfl⟩
      · exact absurd rfl sized
      · cases isArray
        refine ⟨_, map_slotCount_eq_replicate filled inside, ?_⟩
        rw [List.sum_replicate_nat, complete count rfl]
    | _ => cases isArray
  | compound _ slots sum => exact ⟨_, slots, Except.ok.inj (sum.symm.trans counted)⟩
  | struct target _ =>
    cases type with
    | struct head members =>
      obtain ⟨counts, same, rfl⟩ := Ty.memberSlots_sumsSlots.exists_counts counted
      exact ⟨counts, Eq.trans filled same, (Nat.zero_add _).symm⟩
    | _ => cases target
  | compoundCast | diagonalMatrix | matrixResize | scalarCast | splat => simp at row

theorem Constructs.misfit_of_not_filled (constructs : Constructs info.type kind parts)
    (unfilled : ¬(construct info kind parts).Filled) : Misfit info.type kind parts := by
  -- The builder has checked all but the sizes: the types of elements, the number of members.
  cases constructs with
  | array _ _ elements =>
    obtain ⟨part, missed⟩ := Classical.not_forall.mp unfilled
    obtain ⟨given, other⟩ := Classical.not_imp.mp missed
    exact .element given (elements part given) other
  | struct _ complete =>
    have apart : ¬∀ part target, (part, target) ∈ parts.zip info.type.members →
        part.type.slotCount = target.type.slotCount :=
      fun same => unfilled (map_eq_map_iff_zip.mpr ⟨complete, same⟩)
    obtain ⟨part, missed⟩ := Classical.not_forall.mp apart
    obtain ⟨target, missed⟩ := Classical.not_forall.mp missed
    obtain ⟨given, other⟩ := Classical.not_imp.mp missed
    exact .member given other
  | _ => exact absurd trivial unfilled

/-- An array of known size, vector, matrix or struct that a constructor call makes has slots for
just the arguments, one after the other, and those of a struct are as large as its members, unless
one of the arguments is a misfit. -/
theorem constructOf_fits {context : Context} (standard : type.Standard)
    (built : ∀ argument ∈ arguments, argument.Built context Ty.Standard)
    (made : constructOf span flavour type arguments = .ok (.construct info kind parts))
    (row : kind ∈ [.array, .compound, .struct]) (sized : info.type.arraySize? ≠ some .unsized) :
    ((construct info kind parts).Filled ∧ FillsSlots parts info.type) ∨
      Misfit info.type kind parts := by
  have typed := constructOf_wellTyped standard made fun argument given =>
    (built argument given).wellTyped
  cases typed with
  | construct _ constructs =>
    by_cases filled : (construct info kind parts).Filled
    · exact Or.inl ⟨filled, constructs.fillsSlots row sized filled⟩
    · exact Or.inr (constructs.misfit_of_not_filled filled)

end Expr

/-- `struct Stamp { float2 place; int price; };` -/
def stamp : Ty :=
  .struct { id := 80, name := "Stamp" } [⟨{}, "place", floatPair⟩, ⟨{}, "price", Builtin.int⟩]

theorem stamp_standard : stamp.Standard :=
  .struct _ (List.forall_mem_cons.mpr ⟨floatPair_standard,
    List.forall_mem_singleton.mpr (.builtin (List.mem_of_getElem? (i := 5) rfl))⟩)

/-- `Stamp(float2(1), 5)` -/
theorem stamp_fits :
    stamp.Standard ∧
      (∀ argument ∈ [spreadOne, .ofPlainInt .nowhere 5], argument.Built {} Ty.Standard) ∧
      Expr.constructOf .nowhere .struct stamp [spreadOne, .ofPlainInt .nowhere 5] =
        .ok (.construct ⟨.nowhere, stamp⟩ .struct [spreadOne, .ofPlainInt .nowhere 5]) ∧
      Expr.FillsSlots [spreadOne, .ofPlainInt .nowhere 5] stamp := by
  have built : ∀ argument ∈ [spreadOne, .ofPlainInt .nowhere 5],
      argument.Built {} Ty.Standard := by
    refine List.forall_mem_cons.mpr ⟨?_, List.forall_mem_singleton.mpr (.ofPlainInt .nowhere 5)⟩
    have made : Expr.constructOf .nowhere .splat floatPair [.ofPlainInt .nowhere 1] =
        .ok spreadOne := by rfl
    exact .constructOf floatPair_standard
      (List.forall_mem_singleton.mpr (.ofPlainInt .nowhere 1)) made
  have made : Expr.constructOf .nowhere .struct stamp [spreadOne, .ofPlainInt .nowhere 5] =
      .ok (.construct ⟨.nowhere, stamp⟩ .struct [spreadOne, .ofPlainInt .nowhere 5]) := by rfl
  have noMisfit : ¬Expr.Misfit stamp .struct [spreadOne, .ofPlainInt .nowhere 5] := by
    intro misfit
    cases misfit with
    | member given other => rcases given with _ | ⟨_, _ | ⟨_, ⟨⟩⟩⟩ <;> exact other rfl
  obtain ⟨-, fills⟩ :=
    (Expr.constructOf_fits stamp_standard built made (by decide) nofun).resolve_right noMisfit
  exact ⟨stamp_standard, built, made, fills⟩

/-- A struct takes a scalar for a vector, and then its last slot is one of no argument. -/
theorem stamp_misfit :
    Expr.constructOf .nowhere .struct stamp [.ofPlainInt .nowhere 7, .ofPlainInt .nowhere 5] =
        .ok (.construct ⟨.nowhere, stamp⟩ .struct
          [.ofPlainInt .nowhere 7, .ofPlainInt .nowhere 5]) ∧
      stamp.slotCount = .ok 3 ∧
      ¬Expr.Attributed [.ofPlainInt .nowhere 7, .ofPlainInt .nowhere 5] 2 ∧
      Expr.Misfit stamp .struct [.ofPlainInt .nowhere 7, .ofPlainInt .nowhere 5] := by
  refine ⟨by rfl, by rfl, ?_, ?_⟩
  · have counted : [Expr.ofPlainInt .nowhere 7, .ofPlainInt .nowhere 5].map (·.type.slotCount) =
        [1, 1].map Except.ok := by rfl
    rw [Expr.attributed_iff_lt_sum counted]
    decide
  · exact .member List.mem_cons_self nofun

end Shading
