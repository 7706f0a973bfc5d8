import Shading.Proofs.Expr.Conversion
import Shading.Proofs.Expr.Lanes

/-!
Queries against whole values. An answer at a slot is the lane there: this is shown for one node at a
time, with what it needs to know of the types of its parts, and goes from the parts to the whole and
from the values of constants to the references to them. Main statement: `Store.folding_shown`.
-/

namespace Shading

/-- Lanes for each slot of a value, which a query gives wherever it answers. -/
structure Lanes.Shows (lanes : Lanes) (count : Nat)
    (query : Nat → Except Fault (Option Int64)) : Prop where
  length_eq : lanes.length = count
  lane_eq : ∀ {slot value?}, slot < count → query slot = .ok value? → lanes[slot]? = some value?

theorem Lanes.Shows.laneAt_eq {lanes : Lanes} {count slot : Nat} {value? : Option Int64}
    {query : Nat → Except Fault (Option Int64)} (shows : lanes.Shows count query)
    (below : slot < count) (answered : query slot = .ok value?) : lanes.laneAt slot = value? := by
  rw [laneAt, shows.lane_eq below answered, Option.join_some]

theorem Lanes.Shows.of_eq {lanes other : Lanes} {count : Nat}
    {query asked : Nat → Except Fault (Option Int64)} (shows : lanes.Shows count query)
    (sameLanes : other = lanes) (same : ∀ slot, asked slot = query slot) :
    other.Shows count asked where
  length_eq := sameLanes ▸ shows.length_eq
  lane_eq below answered := by
    rw [same] at answered
    exact sameLanes ▸ shows.lane_eq below answered

theorem Ty.slots_eq {type : Ty} {count : Nat} (counted : type.slotCount = .ok count) :
    type.slots = count := by
  rw [slots, counted]
  rfl

/-- The elements of an array and the members of a struct fill as many slots as their types have. -/
def Expr.Filled : Expr → Prop
  | .construct i .array arguments =>
    ∀ argument ∈ arguments, argument.type.slotCount = i.type.component.slotCount
  | .construct i .struct arguments =>
    arguments.map (·.type.slotCount) = i.type.members.map (·.type.slotCount)
  | _ => True

/-- Elements of one size, laid out in a row. -/
theorem Expr.map_slotCount_eq_replicate {arguments : List Expr} {component : Ty} {each : Nat}
    (filled : ∀ argument ∈ arguments, argument.type.slotCount = component.slotCount)
    (counted : component.slotCount = .ok each) :
    arguments.map (·.type.slotCount) = (List.replicate arguments.length each).map Except.ok := by
  rw [List.map_replicate, List.eq_replicate_iff, List.length_map]
  refine ⟨rfl, fun count member => ?_⟩
  obtain ⟨argument, here, rfl⟩ := List.mem_map.mp member
  exact (filled argument here).trans counted

namespace Store

/-- What a node has to be for lanes and queries to agree, beyond what the builders check. A constant
is as large as its initial value. -/
structure Fits (store : Store) (node : Expr) : Prop where
  known : node.type.BuiltinShape
  filled : node.Filled
  initial : ∀ value, store.constant? node = some value →
    value.type.slotCount = node.type.slotCount

section Node

variable {store : Store} {next : Query (Option Int64)} {nextLanes : Expr → Lanes}

/-- The lanes of an expression show what a query for its slots answers. -/
def Shown (store : Store) (next : Query (Option Int64)) (nextLanes : Expr → Lanes) (expr : Expr) :
    Prop :=
  ∀ count, expr.type.slotCount = .ok count →
    (store.lanesWith nextLanes expr).Shows count (store.intWith next expr)

/-- Nothing is shown of an expression where nothing is answered. -/
theorem unknown_shown {expr : Expr} (lanes : store.lanesWith nextLanes expr = expr.type.unknown)
    (query : ∀ slot, store.intWith next expr slot = .ok none) :
    store.Shown next nextLanes expr := by
  intro count counted
  rw [lanes, Ty.unknown, Ty.slots_eq counted]
  refine ⟨List.length_replicate, fun {slot value?} below answered => ?_⟩
  rw [query] at answered
  rw [List.getElem?_replicate, if_pos below, Except.ok.inj answered]

/-! ## Constructor calls -/

/-- Arguments laid out in a row. -/
theorem among_shown {arguments : List Expr} {counts : List Nat}
    (each : ∀ argument ∈ arguments, store.Shown next nextLanes argument)
    (counted : arguments.map (·.type.slotCount) = counts.map Except.ok) :
    (store.lanesOfAll nextLanes arguments).Shows counts.sum (store.intAmong next arguments) := by
  induction arguments generalizing counts with
  | nil =>
    cases counts with
    | nil => exact ⟨by rw [lanesOfAll]; rfl, fun below => absurd below (Nat.not_lt_zero _)⟩
    | cons => cases counted
  | cons argument rest inductionHypothesis =>
    cases counts with
    | nil => cases counted
    | cons count counts =>
      simp only [List.map_cons, List.cons.injEq] at counted
      obtain ⟨here, later⟩ := counted
      have first := each argument List.mem_cons_self count here
      have others := inductionHypothesis
        (fun other member => each other (List.mem_cons_of_mem argument member)) later
      refine ⟨?_, fun {slot value?} below answered => ?_⟩
      · rw [lanesOfAll, List.length_append, first.length_eq, others.length_eq, List.sum_cons]
      · rw [intAmong, here] at answered
        change (if slot < count then store.intWith next argument slot
          else store.intAmong next rest (slot - count)) = .ok value? at answered
        rw [List.sum_cons] at below
        rw [lanesOfAll]
        by_cases inside : slot < count
        · rw [if_pos inside] at answered
          rw [List.getElem?_append_left (first.length_eq ▸ inside)]
          exact first.lane_eq inside answered
        · rw [if_neg inside] at answered
          rw [List.getElem?_append_right (by rw [first.length_eq]; omega), first.length_eq]
          exact others.lane_eq (by omega) answered

/-- The elements of an array, which all have as many slots. -/
theorem array_shown {i : Expr.Info} {arguments : List Expr}
    (each : ∀ argument ∈ arguments, store.Shown next nextLanes argument)
    (fits : store.Fits (.construct i .array arguments)) {size : ArraySize}
    (sized : i.type.arraySize? = some size)
    (complete : ∀ count ∈ size.count?, arguments.length = count.toNat) :
    store.Shown next nextLanes (.construct i .array arguments) := by
  obtain ⟨span, type⟩ := i
  cases type with
  | array head component other =>
    cases sized
    intro total counted
    rcases Ty.slotCount_array counted with ⟨rfl, rfl⟩ | ⟨count, each', rfl, inside, rfl⟩
    · refine ⟨?_, fun below => absurd below (Nat.not_lt_zero _)⟩
      rw [lanesWith]
      rfl
    · have row := among_shown each (Expr.map_slotCount_eq_replicate fits.filled inside)
      rw [List.sum_replicate_nat, complete count rfl] at row
      exact row.of_eq (by rw [lanesWith]; rfl) fun slot => by rw [intWith]
  | _ => cases sized

/-- The members of a struct. -/
theorem struct_shown {i : Expr.Info} {arguments : List Expr}
    (each : ∀ argument ∈ arguments, store.Shown next nextLanes argument)
    (fits : store.Fits (.construct i .struct arguments)) (target : i.type.isStruct = true) :
    store.Shown next nextLanes (.construct i .struct arguments) := by
  obtain ⟨span, type⟩ := i
  cases type with
  | struct head members =>
    intro total counted
    obtain ⟨counts, same, rfl⟩ := Ty.memberSlots_sumsSlots.exists_counts counted
    have row := among_shown each (Eq.trans fits.filled same)
    rw [Nat.zero_add]
    exact row.of_eq (by rw [lanesWith]) fun slot => by rw [intWith]
  | _ => cases target

/-- A cast between integers keeps the lanes, and of any other one nothing is known. -/
theorem cast_shown {i : Expr.Info} {flavour : Flavour} {argument : Expr}
    (shown : store.Shown next nextLanes argument)
    (cast : flavour = .scalarCast ∨ flavour = .compoundCast)
    (same : argument.type.slotCount = i.type.slotCount) :
    store.Shown next nextLanes (.construct i flavour [argument]) := by
  have lanes : store.lanesWith nextLanes (.construct i flavour [argument]) =
      if i.type.component.isInteger && argument.type.component.isInteger then
        store.lanesWith nextLanes argument
      else i.type.unknown := by
    rcases cast with rfl | rfl <;>
      simp only [lanesWith, lanesOfCast, Bool.and_eq_true, ite_and]
  have query (slot : Nat) : store.intWith next (.construct i flavour [argument]) slot =
      if i.type.component.isInteger && argument.type.component.isInteger then
        store.intWith next argument slot
      else .ok none := by
    rcases cast with rfl | rfl <;>
      simp only [intWith, intOfCast, Bool.and_eq_true, ite_and]
  cases integers : i.type.component.isInteger && argument.type.component.isInteger with
  | true =>
    simp only [integers, if_true] at lanes query
    exact fun count counted => (shown count (same.trans counted)).of_eq lanes query
  | false =>
    simp only [integers, Bool.false_eq_true, if_false] at lanes query
    exact unknown_shown lanes query

/-- A scalar in every slot. -/
theorem splat_shown {i : Expr.Info} {argument : Expr}
    (shown : store.Shown next nextLanes argument)
    (scalar : argument.type.slotCount = .ok 1) :
    store.Shown next nextLanes (.construct i .splat [argument]) := by
  intro count counted
  have lanes : store.lanesWith nextLanes (.construct i .splat [argument]) =
      List.replicate count ((store.lanesWith nextLanes argument).laneAt 0) := by
    have size : i.type.slots = count := Ty.slots_eq counted
    simp only [lanesWith, laneOfFirst, size]
  rw [lanes]
  refine ⟨List.length_replicate, fun {slot value?} below answered => ?_⟩
  rw [intWith, intOfFirst] at answered
  rw [List.getElem?_replicate, if_pos below, (shown 1 scalar).laneAt_eq Nat.one_pos answered]

/-- A scalar on the diagonal. -/
theorem diagonal_shown {i : Expr.Info} {argument : Expr}
    (shown : store.Shown next nextLanes argument)
    (scalar : argument.type.slotCount = .ok 1) (matrix : i.type.isMatrix = true) :
    store.Shown next nextLanes (.construct i .diagonalMatrix [argument]) := by
  intro count counted
  have shaped : i.type.isShaped = true :=
    Ty.isShaped_of_compound (by rw [matrix, Bool.or_true])
  have size : count = i.type.columns * i.type.rows :=
    Except.ok.inj (counted.symm.trans (Ty.slotCount_of_isShaped shaped))
  have lanes : store.lanesWith nextLanes (.construct i .diagonalMatrix [argument]) =
      .diagonal i.type.columns i.type.rows ((store.lanesWith nextLanes argument).laneAt 0) := by
    simp only [lanesWith, laneOfFirst]
  rw [lanes, size]
  refine ⟨Lanes.length_diagonal _ _ _, fun {slot value?} below answered => ?_⟩
  have positive : 0 < i.type.rows := by
    refine Nat.pos_of_ne_zero fun none => ?_
    rw [none] at below
    exact Nat.not_lt_zero slot below
  simp only [intWith, intOfFirst, onDiagonal, Nat.max_eq_right positive, beq_iff_eq] at answered
  rw [Lanes.diagonal, Lanes.getElem?_columns below]
  split at answered
  · rename_i here
    rw [if_pos here, (shown 1 scalar).laneAt_eq Nat.one_pos answered]
  · rename_i off
    rw [if_neg off, Except.ok.inj answered]

/-! ## Operators -/

theorem prefixed_shown {i : Expr.Info} {op : Operator} {operand : Expr}
    (shown : store.Shown next nextLanes operand) (typed : i.type = operand.type) :
    store.Shown next nextLanes (.prefixed i op operand) := by
  intro count counted
  have inner := shown count (typed ▸ counted : operand.type.slotCount = .ok count)
  rw [lanesWith]
  refine ⟨by rw [List.length_map, inner.length_eq], fun {slot value?} below answered => ?_⟩
  rw [intWith] at answered
  obtain ⟨operand?, found, same⟩ := Stepping.exists_of_bind_ok answered
  cases same
  rw [List.getElem?_map, inner.lane_eq below found]
  rfl

theorem bind_foldInt?_of_not_isArithmetic {op : Operator} (other : op.isArithmetic = false)
    (left? right? : Option Int64) :
    (left?.bind fun left => right?.bind (op.foldInt? left)) = none := by
  have nothing (left right : Int64) : op.foldInt? left right = none := by
    cases op with
    | plus | minus | star | slash | percent | shiftLeft | shiftRight | bitAnd | bitOr | bitXor =>
      cases other
    | _ => rfl
  simp only [nothing, Option.bind_fun_none]

/-- An operation on integers asks its left side, and its right side if something is known on the
left. -/
theorem binary_answer {i : Expr.Info} {left right : Expr} {op : Operator} {slot : Nat}
    {value? : Option Int64} (integer : (i.type.component.isInteger && !i.type.isMatrix) = true)
    (answered : store.intWith next (.binary i left op right) slot = .ok value?) :
    ∃ left? right?, store.intWith next left (operandSlot left slot) = .ok left? ∧
      (left? ≠ none → store.intWith next right (operandSlot right slot) = .ok right?) ∧
      value? = left?.bind fun leftValue => right?.bind (op.foldInt? leftValue) := by
  have folds : (!i.type.component.isInteger || i.type.isMatrix) = false := by
    rw [← Bool.not_eq_true', Bool.not_or, Bool.not_not]
    exact integer
  rw [intWith, folds] at answered
  obtain ⟨left?, leftFound, rest⟩ := Stepping.exists_of_bind_ok answered
  cases left? with
  | none => exact ⟨none, none, leftFound, absurd rfl, (Except.ok.inj rest).symm⟩
  | some leftValue =>
    obtain ⟨right?, rightFound, last⟩ := Stepping.exists_of_bind_ok rest
    refine ⟨some leftValue, right?, leftFound, fun _ => rightFound, ?_⟩
    cases right? with
    | none => exact (Except.ok.inj last).symm
    | some rightValue => exact (Except.ok.inj last).symm

/-- An operand of arithmetic shows its lanes next to those of the other side. -/
theorem operand_laneAt {operand : Expr} {type : Ty} {slot : Nat} {value? : Option Int64}
    (shown : store.Shown next nextLanes operand) (shaped : operand.type.isShaped = true)
    (spreads : operand.type.SpreadsTo type) (below : slot < type.columns * type.rows)
    (answered : store.intWith next operand (operandSlot operand slot) = .ok value?) :
    ((store.lanesWith nextLanes operand).spread operand.type (type.columns * type.rows)).laneAt
      slot = value? := by
  rw [Lanes.laneAt_spread below]
  rw [operandSlot] at answered
  cases scalar : operand.type.isScalar with
  | true =>
    rw [scalar] at answered
    exact (shown 1 (Ty.slotCount_of_isScalar scalar)).laneAt_eq Nat.one_pos answered
  | false =>
    rw [scalar] at answered
    obtain ⟨columns, rows⟩ := spreads.resolve_left (by rw [scalar]; exact Bool.false_ne_true)
    refine (shown _ (Ty.slotCount_of_isShaped shaped)).laneAt_eq ?_ answered
    rw [columns, rows]
    exact below

theorem binary_shown {i : Expr.Info} {left right : Expr} {op : Operator} {allowNarrowing : Bool}
    (leftShown : store.Shown next nextLanes left) (rightShown : store.Shown next nextLanes right)
    (leftKnown : left.type.BuiltinShape) (rightKnown : right.type.BuiltinShape)
    (typed : op.resultType? left.type right.type allowNarrowing = .ok (some i.type)) :
    store.Shown next nextLanes (.binary i left op right) := by
  cases integer : i.type.component.isInteger && !i.type.isMatrix with
  | false =>
    have skips : (!i.type.component.isInteger || i.type.isMatrix) = true := by
      rw [← Bool.not_eq_false', Bool.not_or, Bool.not_not]
      exact integer
    exact unknown_shown (by rw [lanesWith, integer]; rfl) fun slot => by rw [intWith, skips]; rfl
  | true =>
    intro count counted
    have size : i.type.slots = count := Ty.slots_eq counted
    rw [lanesWith, integer, if_pos rfl, size]
    refine ⟨by rw [Lanes.operate, List.length_map, List.length_range], ?_⟩
    intro slot value? below answered
    rw [Lanes.getElem?_operate below]
    obtain ⟨left?, right?, leftFound, rightFound, rfl⟩ := binary_answer integer answered
    cases arithmetic : op.isArithmetic with
    | false =>
      rw [bind_foldInt?_of_not_isArithmetic arithmetic,
        bind_foldInt?_of_not_isArithmetic arithmetic]
    | true =>
      rw [Operator.resultType?_of_isArithmetic arithmetic] at typed
      obtain ⟨leftShaped, rightShaped, whole, leftSpreads, rightSpreads⟩ :=
        Operator.arithmetic_shapes leftKnown rightKnown typed
          (Bool.and_eq_true_iff.mp integer).1
      have same : count = i.type.columns * i.type.rows :=
        Except.ok.inj (counted.symm.trans (Ty.slotCount_of_isShaped whole))
      subst same
      rw [operand_laneAt leftShown leftShaped leftSpreads below leftFound]
      cases left? with
      | none => rfl
      | some leftValue =>
        rw [operand_laneAt rightShown rightShaped rightSpreads below
          (rightFound (Option.some_ne_none leftValue))]

/-! ## All nodes -/

/-- The lanes of the values of some constants show what queries for them answer. -/
def Onward (store : Store) (next : Query (Option Int64)) (nextLanes : Expr → Lanes)
    (targets : List Variable) : Prop :=
  ∀ value, store.GoesTo targets value → ∀ count, value.type.slotCount = .ok count →
    (nextLanes value).Shows count (next value)

theorem Onward.of_subset {some all : List Variable} (onward : store.Onward next nextLanes all)
    (subset : some ⊆ all) : store.Onward next nextLanes some :=
  fun value goes => onward value (goes.of_subset subset)

theorem reference_shown {i : Expr.Info} {target : Variable} {use : RefKind}
    (fits : store.Fits (.reference i target use)) (onward : store.Onward next nextLanes [target]) :
    store.Shown next nextLanes (.reference i target use) := by
  cases found : store.constant? (.reference i target use) with
  | none =>
    exact unknown_shown (by simp only [lanesWith, found]; rfl) fun slot => by
      simp only [intWith, found]
  | some value =>
    intro count counted
    have shows := onward value (store.goesTo_of_constant? found) count
      ((fits.initial value found).trans counted)
    exact shows.of_eq (by simp only [lanesWith, found]) fun slot => by simp only [intWith, found]

theorem literal_shown {i : Expr.Info} {value : Int64} (integer : i.type.isInteger = true) :
    store.Shown next nextLanes (.intLiteral i value) := by
  intro count counted
  have scalar := Ty.isScalar_of_isInteger integer
  have one : count = 1 :=
    Except.ok.inj (counted.symm.trans (Ty.slotCount_of_isScalar scalar))
  subst one
  rw [lanesWith]
  refine ⟨rfl, fun {slot value?} below answered => ?_⟩
  rw [Nat.lt_one_iff.mp below, intWith, if_pos rfl] at answered
  rw [Nat.lt_one_iff.mp below, ← Except.ok.inj answered]
  rfl

/-- A cast between vectors or matrices of one shape keeps the number of slots. -/
theorem slotCount_of_shape {source type : Ty} (known : type.BuiltinShape)
    (compound : (type.isVector || type.isMatrix) = true) (columns : source.columns = type.columns)
    (rows : source.rows = type.rows) : source.slotCount = type.slotCount := by
  have least := ((known compound).shape_of_compound compound).1
  have some : source.columns ≠ 0 := by
    rw [columns]
    intro none
    rw [none] at least
    exact absurd least (by decide)
  rw [Ty.slotCount_of_isShaped (Ty.isShaped_of_columns some),
    Ty.slotCount_of_isShaped (Ty.isShaped_of_compound compound), columns, rows]

theorem construct_shown {i : Expr.Info} {flavour : Flavour} {arguments : List Expr}
    (each : ∀ argument ∈ arguments, store.Shown next nextLanes argument)
    (fits : store.Fits (.construct i flavour arguments))
    (constructs : Expr.Constructs i.type flavour arguments) :
    store.Shown next nextLanes (.construct i flavour arguments) := by
  cases constructs with
  | array sized complete => exact array_shown each fits sized complete
  | struct target => exact struct_shown each fits target
  | compound target slots filled =>
    intro count counted
    rw [← Except.ok.inj (filled.symm.trans counted)]
    exact (among_shown each slots).of_eq (by rw [lanesWith]) fun slot => by rw [intWith]
  | compoundCast target shape =>
    have same := slotCount_of_shape fits.known target shape.1 shape.2
    exact cast_shown (each _ (List.mem_singleton_self _)) (Or.inr rfl) same
  | scalarCast target scalar =>
    have same := (Ty.slotCount_of_isScalar scalar).trans (Ty.slotCount_of_isScalar target).symm
    exact cast_shown (each _ (List.mem_singleton_self _)) (Or.inl rfl) same
  | splat target scalar =>
    exact splat_shown (each _ (List.mem_singleton_self _)) (Ty.slotCount_of_isScalar scalar)
  | diagonalMatrix target scalar =>
    exact diagonal_shown (each _ (List.mem_singleton_self _)) (Ty.slotCount_of_isScalar scalar)
      target
  | matrixResize =>
    exact unknown_shown (by rw [lanesWith]; rfl) fun slot => by rw [intWith]

variable {context : Context}

mutual

theorem expr_shown (expr : Expr) (typed : expr.WellTyped context)
    (fits : ∀ part ∈ expr.parts, store.Fits part)
    (onward : store.Onward next nextLanes expr.followed) : store.Shown next nextLanes expr := by
  have here := fits expr expr.mem_parts_self
  cases expr with
  | intLiteral i value =>
    cases typed with
    | intLiteral integer => exact literal_shown integer
  | construct i flavour arguments =>
    cases typed with
    | construct argumentsTyped constructs =>
      have inside := (Expr.forall_mem_parts_construct.mp fits).2
      exact construct_shown (all_shown arguments argumentsTyped inside onward) here constructs
  | prefixed i op operand =>
    cases typed with
    | prefixed operandTyped same =>
      have inside := (Expr.forall_mem_parts_prefixed.mp fits).2
      exact prefixed_shown (expr_shown operand operandTyped inside onward) same
  | binary i left op right =>
    cases typed with
    | binary leftTyped rightTyped result =>
      obtain ⟨_, leftFits, rightFits⟩ := Expr.forall_mem_parts_binary.mp fits
      have leftShown := expr_shown left leftTyped leftFits
        (onward.of_subset (List.subset_append_left _ _))
      have rightShown := expr_shown right rightTyped rightFits
        (onward.of_subset (List.subset_append_right _ _))
      exact binary_shown leftShown rightShown (leftFits left left.mem_parts_self).known
        (rightFits right right.mem_parts_self).known result
  | reference i target use => exact reference_shown here onward
  | _ =>
    exact unknown_shown (by simp only [lanesWith]) fun slot => by simp only [intWith]

theorem all_shown (arguments : List Expr)
    (typed : ∀ argument ∈ arguments, argument.WellTyped context)
    (fits : ∀ part ∈ Expr.partsAll arguments, store.Fits part)
    (onward : store.Onward next nextLanes (Expr.followedAll arguments)) :
    ∀ argument ∈ arguments, store.Shown next nextLanes argument := by
  cases arguments with
  | nil => exact fun argument member => absurd member List.not_mem_nil
  | cons first rest =>
    obtain ⟨firstTyped, restTyped⟩ := List.forall_mem_cons.mp typed
    obtain ⟨firstFits, restFits⟩ := Expr.forall_mem_partsAll_cons.mp fits
    have here := expr_shown first firstTyped firstFits
      (onward.of_subset (List.subset_append_left _ _))
    have later := all_shown rest restTyped restFits
      (onward.of_subset (List.subset_append_right _ _))
    exact List.forall_mem_cons.mpr ⟨here, later⟩

end

end Node

/-! ## Through the constants -/

variable {store : Store} {expr : Expr}

/-- An expression that the builders made in some context, with parts and constants of the sizes of
their types. -/
structure Fitting (store : Store) (expr : Expr) : Prop where
  built : ∃ context : Context, expr.Built context Ty.Standard
  fits : ∀ part ∈ expr.parts, store.Fits part

theorem lanesWithin_shows {bound count : Nat}
    (room : (Linked.mentioned store expr).card < bound) (straight : store.Straight expr)
    (fitting : ∀ value, store.LeadsTo expr value → store.Fitting value)
    (counted : expr.type.slotCount = .ok count) :
    (store.lanesWithin bound expr).Shows count (store.intWithin bound expr) := by
  induction bound generalizing expr count with
  | zero => exact absurd room (Nat.not_lt_zero _)
  | succ bound inductionHypothesis =>
    obtain ⟨⟨_, built⟩, fits⟩ := fitting expr (.here expr)
    refine expr_shown expr built.wellTyped fits (fun value goes size sized => ?_) count counted
    have leads : store.LeadsTo expr value := .on goes (.here value)
    have fewer := Linked.card_mentioned_lt goes straight
    exact inductionHypothesis (by omega) (straight.of_leadsTo leads)
      (fun last later => fitting last (leads.trans later)) sized

/-- The answer of a query at a slot is the lane there. The query comes to an answer unless a part of
the expression or of a constant has more slots than are counted. -/
theorem folding_shown {count : Nat} (straight : store.Straight expr)
    (fitting : ∀ value, store.LeadsTo expr value → store.Fitting value)
    (counted : expr.type.slotCount = .ok count) :
    store.lanes expr = store.lanesWith store.lanes expr ∧ (store.lanes expr).length = count ∧
      ∀ slot < count,
        (∀ value?, store.intAt? expr slot = .ok value? →
          (store.lanes expr)[slot]? = some value?) ∧
        (store.Countable expr →
          store.intAt? expr slot = .ok ((store.lanes expr).laneAt slot)) := by
  have room : (Linked.mentioned store expr).card < store.initials.length + 1 :=
    Nat.lt_succ_of_le (card_mentioned_le expr)
  have shows := lanesWithin_shows room straight fitting counted
  have same (slot : Nat) :
      store.intAt? expr slot = store.intWithin (store.initials.length + 1) expr slot :=
    store.intWithin_linked.bound_suffices (store.intWithin_linked.proper_of_straight room straight
      slot)
  refine ⟨lanes_eq straight, shows.length_eq, fun slot below => ⟨?_, fun countable => ?_⟩⟩
  · intro value? answered
    rw [same] at answered
    exact shows.lane_eq below answered
  · obtain ⟨value?, answered⟩ := intAt?_answers straight countable slot
    have lane := shows.laneAt_eq below ((same slot).symm.trans answered)
    rw [lanes, lane]
    exact answered

theorem Fits.ofPlainInt (store : Store) (value : Int64) :
    store.Fits (.ofPlainInt .nowhere value) :=
  ⟨.of_plain rfl, trivial, nofun⟩

/-- `int2(width, 7)` -/
def widthPair : Expr :=
  .construct ⟨.nowhere, intPair⟩ .compound
    [.ofVariable .nowhere width .read, .ofPlainInt .nowhere 7]

/-- `int2(width, 7) + 1` -/
def raisedPair : Expr :=
  .binary ⟨Span.nowhere.merge .nowhere, intPair⟩ widthPair .plus (.ofPlainInt .nowhere 1)

theorem raisedPair_built : raisedPair.Built {} Ty.Standard := by
  have known : intPair.Standard := .builtin (List.mem_of_getElem? (i := 19) rfl)
  have madePair : Expr.constructOf .nowhere .compound intPair
      [.ofVariable .nowhere width .read, .ofPlainInt .nowhere 7] = .ok widthPair := by rfl
  have made : Expr.binaryOf {} widthPair .plus (.ofPlainInt .nowhere 1) = .ok raisedPair := by rfl
  have arguments : ∀ argument ∈ [Expr.ofVariable .nowhere width .read, .ofPlainInt .nowhere 7],
      argument.Built {} Ty.Standard :=
    List.forall_mem_cons.mpr ⟨.ofVariable .nowhere width .read,
      List.forall_mem_singleton.mpr (.ofPlainInt .nowhere 7)⟩
  exact .binaryOf (.constructOf known arguments madePair) (.ofPlainInt .nowhere 1) made

theorem raisedPair_fits : ∀ part ∈ raisedPair.parts, withWidth.Fits part := by
  have pair : intPair.BuiltinShape := fun _ => .builtin (List.mem_of_getElem? (i := 19) rfl)
  have parts : raisedPair.parts = [raisedPair, widthPair, .ofVariable .nowhere width .read,
      .ofPlainInt .nowhere 7, .ofPlainInt .nowhere 1] := rfl
  simp only [parts, List.forall_mem_cons, List.not_mem_nil, false_implies, implies_true, and_true]
  refine ⟨⟨pair, trivial, nofun⟩, ⟨pair, trivial, nofun⟩, ⟨.of_plain rfl, trivial, ?_⟩,
    .ofPlainInt _ 7, .ofPlainInt _ 1⟩
  intro value found
  cases found
  rfl

theorem three_fitting : withWidth.Fitting three where
  built := ⟨{}, .ofPlainInt .nowhere 3⟩
  fits part member := by
    cases List.mem_singleton.mp member
    exact .ofPlainInt withWidth 3

theorem raisedPair_fitting (value : Expr) (leads : withWidth.LeadsTo raisedPair value) :
    withWidth.Fitting value := by
  rcases leads with _ | ⟨⟨target, followed, _, found⟩, later⟩
  · exact ⟨⟨{}, raisedPair_built⟩, raisedPair_fits⟩
  · cases List.mem_singleton.mp followed
    cases found
    rcases later with _ | ⟨⟨_, followed, _⟩, _⟩
    · exact three_fitting
    · cases followed

theorem withWidth_straight (expr : Expr) : withWidth.Straight expr := by
  refine straight_of_plain (fun entry member => ?_) expr
  cases List.mem_singleton.mp member
  rfl

/-- The lanes of `int2(width, 7) + 1`. -/
theorem raisedPair_shown :
    withWidth.Straight raisedPair ∧
      (∀ value, withWidth.LeadsTo raisedPair value → withWidth.Fitting value) ∧
      raisedPair.type.slotCount = .ok 2 ∧
      (withWidth.lanes raisedPair = withWidth.lanesWith withWidth.lanes raisedPair ∧
        (withWidth.lanes raisedPair).length = 2 ∧
        ∀ slot < 2,
          (∀ value?, withWidth.intAt? raisedPair slot = .ok value? →
            (withWidth.lanes raisedPair)[slot]? = some value?) ∧
          (withWidth.Countable raisedPair →
            withWidth.intAt? raisedPair slot = .ok ((withWidth.lanes raisedPair).laneAt slot))) ∧
      withWidth.lanes raisedPair = [some 4, some 8] := by
  exact ⟨withWidth_straight raisedPair, raisedPair_fitting, rfl,
    folding_shown (withWidth_straight raisedPair) raisedPair_fitting rfl, by decide⟩

end Store

/-! ## Arrays without a size, and values that are too large -/

namespace Expr

mutual

/-- The integers of literals and constructor calls in a row, where the elements of an array count
whether or not its type has a size. -/
def written : Expr → Lanes
  | .intLiteral _ value => [some value]
  | .construct _ _ arguments => writtenAll arguments
  | _ => []

def writtenAll : List Expr → Lanes
  | [] => []
  | argument :: rest => argument.written ++ writtenAll rest

end

end Expr

def itemsType : Ty :=
  .array { id := 74, name := Ty.arrayName Builtin.int .unsized } Builtin.int .unsized

/-- `struct Parcel { int[] items; int price; };` -/
def parcelType : Ty :=
  .struct { id := 75, name := "Parcel" } [⟨{}, "items", itemsType⟩, ⟨{}, "price", Builtin.int⟩]

/-- `int[](1, 2)` -/
def parcelItems : Expr :=
  .construct ⟨.nowhere, itemsType⟩ .array [.ofPlainInt .nowhere 1, .ofPlainInt .nowhere 2]

/-- `Parcel(int[](1, 2), 5)` -/
def parcel : Expr :=
  .construct ⟨.nowhere, parcelType⟩ .struct [parcelItems, .ofPlainInt .nowhere 5]

theorem int_standard : Builtin.int.Standard := .builtin (List.mem_of_getElem? (i := 5) rfl)

theorem parcel_fitting : Store.Fitting {} parcel where
  built := by
    have items : itemsType.Standard := .array _ .unsized int_standard
    have known : parcelType.Standard :=
      .struct _ (List.forall_mem_cons.mpr ⟨items, List.forall_mem_singleton.mpr int_standard⟩)
    have madeItems : Expr.constructOf .nowhere .array itemsType
        [.ofPlainInt .nowhere 1, .ofPlainInt .nowhere 2] = .ok parcelItems := by rfl
    have made : Expr.constructOf .nowhere .struct parcelType
        [parcelItems, .ofPlainInt .nowhere 5] = .ok parcel := by rfl
    have elements : ∀ argument ∈ [Expr.ofPlainInt .nowhere 1, .ofPlainInt .nowhere 2],
        argument.Built {} Ty.Standard :=
      List.forall_mem_cons.mpr ⟨.ofPlainInt .nowhere 1,
        List.forall_mem_singleton.mpr (.ofPlainInt .nowhere 2)⟩
    exact ⟨{}, .constructOf known (List.forall_mem_cons.mpr ⟨.constructOf items elements madeItems,
      List.forall_mem_singleton.mpr (.ofPlainInt .nowhere 5)⟩) made⟩
  fits := by
    have parts : parcel.parts = [parcel, parcelItems, .ofPlainInt .nowhere 1,
        .ofPlainInt .nowhere 2, .ofPlainInt .nowhere 5] := rfl
    simp only [parts, List.forall_mem_cons, List.not_mem_nil, false_implies, implies_true,
      and_true]
    have items : Expr.Filled parcelItems :=
      List.forall_mem_cons.mpr ⟨rfl, List.forall_mem_singleton.mpr rfl⟩
    exact ⟨⟨.of_plain rfl, rfl, nofun⟩, ⟨.of_plain rfl, items, nofun⟩, .ofPlainInt _ 1,
      .ofPlainInt _ 2, .ofPlainInt _ 5⟩

/-- Three arrays of the greatest size, one in another. -/
def hugeType : Ty :=
  arrayOf 76 (arrayOf 77 (arrayOf 78 Builtin.int))
where
  arrayOf (id : Nat) (component : Ty) : Ty :=
    .array { id, name := Ty.arrayName component (.sized 2147483647) } component (.sized 2147483647)

def hallType : Ty := .struct { id := 79, name := "Hall" } [⟨{}, "seats", hugeType⟩]

def seats : Expr :=
  .ofVariable .nowhere { pairParameter with name := "seats", type := hugeType } .read

/-- `Hall(seats)` -/
def hall : Expr := .construct ⟨.nowhere, hallType⟩ .struct [seats]

/-- `Hall(seats), 5` -/
def hallThenFive : Expr :=
  .binary ⟨Span.nowhere.merge .nowhere, Builtin.int⟩ hall .comma (.ofPlainInt .nowhere 5)

theorem hallThenFive_fitting : Store.Fitting {} hallThenFive where
  built := by
    have huge : hugeType.Standard := .array _ _ (.array _ _ (.array _ _ int_standard))
    have known : hallType.Standard := .struct _ (List.forall_mem_singleton.mpr huge)
    have madeHall : Expr.constructOf .nowhere .struct hallType [seats] = .ok hall := by rfl
    have made : Expr.binaryOf {} hall .comma (.ofPlainInt .nowhere 5) = .ok hallThenFive := by rfl
    have hallBuilt : hall.Built {} Ty.Standard :=
      .constructOf known (List.forall_mem_singleton.mpr (.ofVariable ..)) madeHall
    exact ⟨{}, .binaryOf hallBuilt (.ofPlainInt .nowhere 5) made⟩
  fits := by
    have parts : hallThenFive.parts = [hallThenFive, hall, seats, .ofPlainInt .nowhere 5] := rfl
    simp only [parts, List.forall_mem_cons, List.not_mem_nil, false_implies, implies_true,
      and_true]
    exact ⟨⟨.of_plain rfl, trivial, nofun⟩, ⟨.of_plain rfl, rfl, nofun⟩,
      ⟨.of_plain rfl, trivial, nofun⟩, .ofPlainInt _ 5⟩

/-- The elements of an array without a size have no slots, and a slot that is past too many others
is not found even where nothing is known of it. -/
theorem written_ne_folded :
    (Store.Fitting {} parcel ∧ Store.Straight {} parcel ∧ parcel.type.slotCount = .ok 1 ∧
        parcel.written.laneAt 0 = some 1 ∧ Store.intAt? {} parcel 0 = .ok (some 5)) ∧
      (Store.Fitting {} hallThenFive ∧ Store.Straight {} hallThenFive ∧
        hallThenFive.type.slotCount = .ok 1 ∧ Store.lanes {} hallThenFive = [none] ∧
        Store.intAt? {} hallThenFive 0 = .error .multiplyOverflow) := by
  have straight (expr : Expr) : Store.Straight {} expr :=
    Store.straight_of_plain (fun _ member => absurd member List.not_mem_nil) expr
  exact ⟨⟨parcel_fitting, straight parcel, rfl, rfl, rfl⟩,
    hallThenFive_fitting, straight hallThenFive, rfl, rfl, rfl⟩

end Shading
