import Shading.Proofs.Expr.Parts
import Shading.Proofs.Expr.WellTyped
import Shading.Proofs.Type.Arithmetic
import Shading.Proofs.Type.Slots

/-!
Constants as whole values. The lanes of an expression are the integers that are known of it, slot by
slot; they are put together from the lanes of its parts, where a query for one slot finds its way
down to a literal and counts the slots that it passes.
-/

namespace Shading

/-- The integers that are known of a value, slot by slot. -/
abbrev Lanes := List (Option Int64)

namespace Lanes

/-- The integer at a slot, if it is known. -/
def laneAt (lanes : Lanes) (slot : Nat) : Option Int64 := lanes[slot]?.join

/-- A matrix, column by column, with one integer on its diagonal. -/
def diagonal (columns rows : Nat) (lane : Option Int64) : Lanes :=
  (List.range columns).flatMap fun column =>
    (List.range rows).map fun row => if column = row then lane else none

/-- The lanes of an operand next to one of so many slots: a scalar is repeated. -/
def spread (lanes : Lanes) (type : Ty) (count : Nat) : Lanes :=
  if type.isScalar then List.replicate count (lanes.laneAt 0) else lanes

/-- An operation on two values, position by position. -/
def operate (op : Operator) (count : Nat) (left right : Lanes) : Lanes :=
  (List.range count).map fun slot =>
    (left.laneAt slot).bind fun leftValue => (right.laneAt slot).bind (op.foldInt? leftValue)

variable {lanes left right : Lanes} {slot count : Nat}

theorem laneAt_spread {type : Ty} (below : slot < count) :
    (lanes.spread type count).laneAt slot = lanes.laneAt (if type.isScalar then 0 else slot) := by
  rw [spread]
  split
  · rw [laneAt, List.getElem?_replicate, if_pos below, Option.join_some]
  · rfl

theorem getElem?_operate {op : Operator} (below : slot < count) :
    (operate op count left right)[slot]? = some ((left.laneAt slot).bind fun leftValue =>
      (right.laneAt slot).bind (op.foldInt? leftValue)) := by
  rw [operate, List.getElem?_map, List.getElem?_range below, Option.map_some]

/-- A table, laid out column by column. -/
theorem getElem?_columns {α : Type} {entry : Nat → Nat → α} {columns rows : Nat}
    (below : slot < columns * rows) :
    ((List.range columns).flatMap fun column => (List.range rows).map (entry column))[slot]? =
      some (entry (slot / rows) (slot % rows)) := by
  induction columns with
  | zero => omega
  | succ columns inductionHypothesis =>
    have size : ((List.range columns).flatMap fun column =>
        (List.range rows).map (entry column)).length = columns * rows := by
      simp [List.length_flatMap]
    rw [List.range_succ, List.flatMap_append, List.flatMap_singleton]
    by_cases inside : slot < columns * rows
    · rw [List.getElem?_append_left (size ▸ inside)]
      exact inductionHypothesis inside
    · have atLeast : columns * rows ≤ slot := Nat.le_of_not_lt inside
      have column : slot / rows = columns := Nat.div_eq_of_lt_le atLeast below
      have row : slot % rows = slot - columns * rows := by
        rw [Nat.mod_eq_sub, column, Nat.mul_comm]
      have last : slot - columns * rows < rows := by
        rw [Nat.add_one_mul] at below
        omega
      rw [List.getElem?_append_right (size ▸ atLeast), size, List.getElem?_map,
        List.getElem?_range last, column, row, Option.map_some]

theorem length_diagonal (columns rows : Nat) (lane : Option Int64) :
    (diagonal columns rows lane).length = columns * rows := by
  simp [diagonal, List.length_flatMap]

end Lanes

/-- The number of slots of a value, where it can be counted. -/
def Ty.slots (type : Ty) : Nat := type.slotCount.toOption.getD 0

/-- A value of which nothing is known. -/
def Ty.unknown (type : Ty) : Lanes := List.replicate type.slots none

namespace Store

mutual

/-- The lanes of an expression, where `next` has those of the values that constants stand for. An
array without a size has no slots, and so no lanes. -/
def lanesWith (store : Store) (next : Expr → Lanes) : Expr → Lanes
  | .intLiteral _ value => [some value]
  | .construct i flavour arguments =>
    match flavour with
    | .array =>
      if i.type.arraySize? = some .unsized then [] else lanesOfAll store next arguments
    | .compound | .struct => lanesOfAll store next arguments
    | .splat => List.replicate i.type.slots (laneOfFirst store next arguments)
    | .diagonalMatrix =>
      .diagonal i.type.columns i.type.rows (laneOfFirst store next arguments)
    | .scalarCast | .compoundCast =>
      if i.type.component.isInteger then lanesOfCast store next arguments i.type
      else i.type.unknown
    | .matrixResize => i.type.unknown
  | .prefixed _ op operand =>
    (lanesWith store next operand).map fun lane => lane.bind op.foldPrefix?
  | .binary i left op right =>
    if i.type.component.isInteger && !i.type.isMatrix then
      .operate op i.type.slots ((lanesWith store next left).spread left.type i.type.slots)
        ((lanesWith store next right).spread right.type i.type.slots)
    else i.type.unknown
  | .reference i target use =>
    match store.constant? (.reference i target use) with
    | some value => next value
    | none => i.type.unknown
  | expr => expr.type.unknown

/-- The lanes of arguments laid out in a row. -/
def lanesOfAll (store : Store) (next : Expr → Lanes) : List Expr → Lanes
  | [] => []
  | argument :: rest => lanesWith store next argument ++ lanesOfAll store next rest

def laneOfFirst (store : Store) (next : Expr → Lanes) : List Expr → Option Int64
  | [] => none
  | argument :: _ => (lanesWith store next argument).laneAt 0

/-- The lanes of the argument of a cast to integers, if that has integers too. -/
def lanesOfCast (store : Store) (next : Expr → Lanes) : List Expr → Ty → Lanes
  | [], type => type.unknown
  | argument :: _, type =>
    if argument.type.component.isInteger then lanesWith store next argument else type.unknown

end

/-- The lanes of an expression, where constants are followed over fewer than `bound` links. -/
def lanesWithin (store : Store) : Nat → Expr → Lanes
  | 0 => fun expr => expr.type.unknown
  | bound + 1 => store.lanesWith (store.lanesWithin bound)

/-- The lanes of an expression. No way through the constants is longer than there are initial
values, unless it is a circle. -/
def lanes (store : Store) (expr : Expr) : Lanes :=
  store.lanesWithin (store.initials.length + 1) expr

/-! ## The defining equation -/

section Link

variable {store : Store} {next other : Expr → Lanes}

/-- Whether two evaluators agree on the values that some variables stand for. -/
def SameLanes (store : Store) (next other : Expr → Lanes) (targets : List Variable) : Prop :=
  ∀ value, store.GoesTo targets value → next value = other value

theorem SameLanes.of_subset {some all : List Variable} (same : store.SameLanes next other all)
    (subset : some ⊆ all) : store.SameLanes next other some :=
  fun value goes => same value (goes.of_subset subset)

mutual

theorem lanesWith_congr (expr : Expr) (same : store.SameLanes next other expr.followed) :
    store.lanesWith next expr = store.lanesWith other expr := by
  cases expr with
  | reference i target use =>
    simp only [lanesWith]
    cases found : store.constant? (.reference i target use) with
    | none => rfl
    | some value => exact same value (store.goesTo_of_constant? found)
  | construct i flavour arguments =>
    have all := lanesOfAll_congr arguments same
    have first := laneOfFirst_congr arguments same
    have cast := lanesOfCast_congr arguments i.type same
    simp only [lanesWith, all, first, cast]
  | prefixed i op operand =>
    simp only [lanesWith, lanesWith_congr operand same]
  | binary i left op right =>
    have onLeft := lanesWith_congr left (same.of_subset (List.subset_append_left _ _))
    have onRight := lanesWith_congr right (same.of_subset (List.subset_append_right _ _))
    simp only [lanesWith, onLeft, onRight]
  | _ => simp only [lanesWith]

theorem lanesOfAll_congr (arguments : List Expr)
    (same : store.SameLanes next other (Expr.followedAll arguments)) :
    store.lanesOfAll next arguments = store.lanesOfAll other arguments := by
  cases arguments with
  | nil => simp only [lanesOfAll]
  | cons argument rest =>
    have here := lanesWith_congr argument (same.of_subset (List.subset_append_left _ _))
    have later := lanesOfAll_congr rest (same.of_subset (List.subset_append_right _ _))
    simp only [lanesOfAll, here, later]

theorem laneOfFirst_congr (arguments : List Expr)
    (same : store.SameLanes next other (Expr.followedAll arguments)) :
    store.laneOfFirst next arguments = store.laneOfFirst other arguments := by
  cases arguments with
  | nil => simp only [laneOfFirst]
  | cons argument rest =>
    have here := lanesWith_congr argument (same.of_subset (List.subset_append_left _ _))
    simp only [laneOfFirst, here]

theorem lanesOfCast_congr (arguments : List Expr) (type : Ty)
    (same : store.SameLanes next other (Expr.followedAll arguments)) :
    store.lanesOfCast next arguments type = store.lanesOfCast other arguments type := by
  cases arguments with
  | nil => simp only [lanesOfCast]
  | cons argument rest =>
    have here := lanesWith_congr argument (same.of_subset (List.subset_append_left _ _))
    simp only [lanesOfCast, here]

end

end Link

variable {store : Store} {expr : Expr}

theorem lanesWithin_succ {bound : Nat} (room : (Linked.mentioned store expr).card < bound)
    (straight : store.Straight expr) :
    store.lanesWithin (bound + 1) expr = store.lanesWithin bound expr := by
  induction bound generalizing expr with
  | zero => exact absurd room (Nat.not_lt_zero _)
  | succ bound inductionHypothesis =>
    refine lanesWith_congr expr fun value goes => ?_
    have fewer := Linked.card_mentioned_lt goes straight
    exact inductionHypothesis (by omega) (straight.of_leadsTo (.on goes (.here value)))

theorem card_mentioned_le (expr : Expr) :
    (Linked.mentioned store expr).card ≤ store.initials.length := by
  have whole := (Linked.mentioned store expr).card_le_univ
  rw [Fintype.card_fin] at whole
  exact whole

/-- The lanes of an expression are made of those of its parts and of the values that constants
stand for, if no constant leads back to itself. -/
theorem lanes_eq (straight : store.Straight expr) :
    store.lanes expr = store.lanesWith store.lanes expr := by
  refine lanesWith_congr expr fun value goes => ?_
  have fewer := Linked.card_mentioned_lt goes straight
  have bounded : (Linked.mentioned store expr).card ≤ store.initials.length :=
    card_mentioned_le expr
  exact (lanesWithin_succ (by omega) (straight.of_leadsTo (.on goes (.here value)))).symm

end Store

end Shading
