import Shading.Proofs.Expr.Queries

/-!
What a query of constants looks into: the parts of an expression, and through constants the parts of
their values. Two things keep a query from an answer, a constant that leads back to itself and a
part with more slots than are counted. Main statement: `Store.intAt?_answers`, without both there is
an answer.
-/

namespace Shading

namespace Expr

mutual

/-- An expression with the operands and arguments that a query of its slots may look into. -/
def parts : Expr → List Expr
  | expr@(.construct _ _ arguments) => expr :: partsAll arguments
  | expr@(.prefixed _ _ operand) => expr :: operand.parts
  | expr@(.binary _ left _ right) => expr :: (left.parts ++ right.parts)
  | expr => [expr]

def partsAll : List Expr → List Expr
  | [] => []
  | argument :: rest => argument.parts ++ partsAll rest

end

theorem mem_parts_self (expr : Expr) : expr ∈ expr.parts := by
  cases expr with
  | construct | prefixed | binary =>
    rw [parts]
    exact List.mem_cons_self
  | _ => exact List.mem_singleton_self _

section Everywhere

variable {holds : Expr → Prop} {info : Info}

theorem forall_mem_parts_construct {flavour : Flavour} {arguments : List Expr} :
    (∀ part ∈ (construct info flavour arguments).parts, holds part) ↔
      holds (construct info flavour arguments) ∧ ∀ part ∈ partsAll arguments, holds part := by
  rw [parts, List.forall_mem_cons]

theorem forall_mem_parts_prefixed {op : Operator} {operand : Expr} :
    (∀ part ∈ (prefixed info op operand).parts, holds part) ↔
      holds (prefixed info op operand) ∧ ∀ part ∈ operand.parts, holds part := by
  rw [parts, List.forall_mem_cons]

theorem forall_mem_parts_binary {left right : Expr} {op : Operator} :
    (∀ part ∈ (binary info left op right).parts, holds part) ↔
      holds (binary info left op right) ∧ (∀ part ∈ left.parts, holds part) ∧
        ∀ part ∈ right.parts, holds part := by
  rw [parts, List.forall_mem_cons, List.forall_mem_append]

theorem forall_mem_partsAll_cons {argument : Expr} {rest : List Expr} :
    (∀ part ∈ partsAll (argument :: rest), holds part) ↔
      (∀ part ∈ argument.parts, holds part) ∧ ∀ part ∈ partsAll rest, holds part := by
  rw [partsAll, List.forall_mem_append]

end Everywhere

/-- No part has more slots than are counted. -/
def Countable (expr : Expr) : Prop :=
  ∀ part ∈ expr.parts, ∃ count, part.type.slotCount = .ok count

end Expr

namespace Store

/-- A value that a query of an expression may come to, over any number of constants. -/
inductive LeadsTo (store : Store) : Expr → Expr → Prop where
  | here (expr : Expr) : LeadsTo store expr expr
  | on {expr value last : Expr} (goes : store.GoesTo expr.followed value)
      (later : LeadsTo store value last) : LeadsTo store expr last

variable {store : Store} {expr value : Expr}

theorem GoesTo.of_subset {some all : List Variable} (goes : store.GoesTo some value)
    (subset : some ⊆ all) : store.GoesTo all value := by
  obtain ⟨target, member, const, found⟩ := goes
  exact ⟨target, subset member, const, found⟩

theorem LeadsTo.mentions {id : Nat} (leads : store.LeadsTo expr value)
    (mentioned : store.Mentions value id) : store.Mentions expr id := by
  induction leads with
  | here => exact mentioned
  | on goes _ inductionHypothesis => exact .on goes (inductionHypothesis mentioned)

theorem LeadsTo.trans {last : Expr} (leads : store.LeadsTo expr value)
    (later : store.LeadsTo value last) : store.LeadsTo expr last := by
  induction leads with
  | here => exact later
  | on goes _ inductionHypothesis => exact .on goes (inductionHypothesis later)

/-- No constant that a query of an expression comes to leads back to itself. -/
def Straight (store : Store) (expr : Expr) : Prop :=
  ∀ id, store.Mentions expr id → ¬store.Circular id

theorem Straight.of_leadsTo (straight : store.Straight expr) (leads : store.LeadsTo expr value) :
    store.Straight value :=
  fun id mentioned => straight id (leads.mentions mentioned)

/-- Initial values that mention no variables do not lead anywhere. -/
theorem straight_of_plain (plain : ∀ entry ∈ store.initials, entry.2.followed = [])
    (expr : Expr) : store.Straight expr := by
  rintro id _ ⟨value, found, later⟩
  obtain ⟨index, here⟩ := exists_index_of_lookup found
  have member := List.get_mem store.initials index
  rw [here] at member
  exact not_mentions_of_followed (plain _ member) later

/-- Neither an expression nor a value that it leads to has a part with too many slots. -/
def Countable (store : Store) (expr : Expr) : Prop :=
  ∀ value, store.LeadsTo expr value → value.Countable

theorem Countable.of_leadsTo (countable : store.Countable expr)
    (leads : store.LeadsTo expr value) : store.Countable value :=
  fun last later => countable last (leads.trans later)

/-! ## One link -/

section Link

variable {next : Query (Option Int64)}

/-- Whether a query has an answer at every slot of the values that some variables stand for. -/
def Answers (store : Store) (next : Query (Option Int64)) (targets : List Variable) : Prop :=
  ∀ value slot, store.GoesTo targets value → ∃ value?, next value slot = .ok value?

theorem Answers.of_subset {some all : List Variable} (answers : store.Answers next all)
    (subset : some ⊆ all) : store.Answers next some :=
  fun value slot goes => answers value slot (goes.of_subset subset)

mutual

theorem intWith_ok (expr : Expr) (countable : expr.Countable)
    (answers : store.Answers next expr.followed) (slot : Nat) :
    ∃ value?, store.intWith next expr slot = .ok value? := by
  cases expr with
  | reference i target use =>
    simp only [intWith]
    cases found : store.constant? (.reference i target use) with
    | none => exact ⟨none, rfl⟩
    | some value => exact answers value slot (store.goesTo_of_constant? found)
  | construct i flavour arguments =>
    have inside := (Expr.forall_mem_parts_construct.mp countable).2
    have cast := intOfCast_ok arguments inside answers slot
    have first := intOfFirst_ok arguments inside answers
    have among := intAmong_ok arguments inside answers slot
    simp only [intWith]
    cases flavour with
    | scalarCast | compoundCast =>
      dsimp only
      split
      · exact cast
      · exact ⟨none, rfl⟩
    | splat => exact first
    | diagonalMatrix =>
      dsimp only
      split
      · exact first
      · exact ⟨none, rfl⟩
    | array | compound | struct => exact among
    | matrixResize => exact ⟨none, rfl⟩
  | prefixed i op operand =>
    have inside := (Expr.forall_mem_parts_prefixed.mp countable).2
    obtain ⟨value?, answered⟩ := intWith_ok operand inside answers slot
    simp only [intWith, answered]
    exact ⟨_, rfl⟩
  | binary i left op right =>
    obtain ⟨_, leftCountable, rightCountable⟩ := Expr.forall_mem_parts_binary.mp countable
    obtain ⟨leftValue?, leftAnswered⟩ := intWith_ok left leftCountable
      (answers.of_subset (List.subset_append_left _ _)) (operandSlot left slot)
    obtain ⟨rightValue?, rightAnswered⟩ := intWith_ok right rightCountable
      (answers.of_subset (List.subset_append_right _ _)) (operandSlot right slot)
    simp only [intWith, leftAnswered, rightAnswered]
    split
    · exact ⟨none, rfl⟩
    · cases leftValue? with
      | none => exact ⟨none, rfl⟩
      | some leftValue =>
        cases rightValue? with
        | none => exact ⟨none, rfl⟩
        | some rightValue => exact ⟨_, rfl⟩
  | _ =>
    simp only [intWith]
    exact ⟨_, rfl⟩

theorem intOfCast_ok (arguments : List Expr)
    (countable : ∀ part ∈ Expr.partsAll arguments, ∃ count, part.type.slotCount = .ok count)
    (answers : store.Answers next (Expr.followedAll arguments)) (slot : Nat) :
    ∃ value?, store.intOfCast next arguments slot = .ok value? := by
  cases arguments with
  | nil =>
    simp only [intOfCast]
    exact ⟨none, rfl⟩
  | cons argument rest =>
    have here := (Expr.forall_mem_partsAll_cons.mp countable).1
    simp only [intOfCast]
    split
    · exact intWith_ok argument here (answers.of_subset (List.subset_append_left _ _)) slot
    · exact ⟨none, rfl⟩

theorem intOfFirst_ok (arguments : List Expr)
    (countable : ∀ part ∈ Expr.partsAll arguments, ∃ count, part.type.slotCount = .ok count)
    (answers : store.Answers next (Expr.followedAll arguments)) :
    ∃ value?, store.intOfFirst next arguments = .ok value? := by
  cases arguments with
  | nil =>
    simp only [intOfFirst]
    exact ⟨none, rfl⟩
  | cons argument rest =>
    have here := (Expr.forall_mem_partsAll_cons.mp countable).1
    simp only [intOfFirst]
    exact intWith_ok argument here (answers.of_subset (List.subset_append_left _ _)) 0

theorem intAmong_ok (arguments : List Expr)
    (countable : ∀ part ∈ Expr.partsAll arguments, ∃ count, part.type.slotCount = .ok count)
    (answers : store.Answers next (Expr.followedAll arguments)) (slot : Nat) :
    ∃ value?, store.intAmong next arguments slot = .ok value? := by
  cases arguments with
  | nil =>
    simp only [intAmong]
    exact ⟨none, rfl⟩
  | cons argument rest =>
    obtain ⟨argumentCountable, restCountable⟩ := Expr.forall_mem_partsAll_cons.mp countable
    obtain ⟨count, counted⟩ := argumentCountable argument argument.mem_parts_self
    have here := intWith_ok argument argumentCountable
      (answers.of_subset (List.subset_append_left _ _)) slot
    have later := intAmong_ok rest restCountable
      (answers.of_subset (List.subset_append_right _ _)) (slot - count)
    simp only [intAmong, counted]
    change ∃ value?, (if slot < count then store.intWith next argument slot
      else store.intAmong next rest (slot - count)) = .ok value?
    split
    · exact here
    · exact later

end

end Link

/-! ## Many links -/

theorem intWithin_ok {bound : Nat} (room : (Linked.mentioned store expr).card < bound)
    (straight : store.Straight expr) (countable : store.Countable expr) (slot : Nat) :
    ∃ value?, store.intWithin bound expr slot = .ok value? := by
  induction bound generalizing expr slot with
  | zero => exact absurd room (Nat.not_lt_zero _)
  | succ bound inductionHypothesis =>
    refine intWith_ok expr (countable expr (.here expr)) (fun value inner goes => ?_) slot
    have leads : store.LeadsTo expr value := .on goes (.here value)
    have fewer := Linked.card_mentioned_lt goes straight
    exact inductionHypothesis (by omega) (straight.of_leadsTo leads)
      (countable.of_leadsTo leads) inner

/-- What is known at a slot is found, if no constant leads back to itself and all slots of parts
are counted. -/
theorem intAt?_answers (straight : store.Straight expr) (countable : store.Countable expr)
    (slot : Nat) : ∃ value?, store.intAt? expr slot = .ok value? := by
  obtain ⟨value?, answered⟩ :=
    intWithin_ok (Nat.lt_succ_self _) straight countable slot
  exact ⟨value?, intAt?_of_intWithin answered⟩

theorem resolveWithin_ok {bound : Nat} (room : (Linked.mentioned store expr).card < bound)
    (straight : store.Straight expr) :
    ∃ value, store.resolveWithin bound expr = .ok value ∧ store.LeadsTo expr value := by
  induction bound generalizing expr with
  | zero => exact absurd room (Nat.not_lt_zero _)
  | succ bound inductionHypothesis =>
    rw [resolveWithin]
    cases found : store.constant? expr with
    | none => exact ⟨expr, rfl, .here expr⟩
    | some value =>
      cases expr with
      | reference i target use =>
        have goes : store.GoesTo (Expr.reference i target use).followed value :=
          store.goesTo_of_constant? found
        have fewer := Linked.card_mentioned_lt goes straight
        have onward : store.Straight value := straight.of_leadsTo (.on goes (.here value))
        obtain ⟨last, resolved, leads⟩ := inductionHypothesis (by omega) onward
        exact ⟨last, resolved, .on goes leads⟩
      | _ => cases found

/-- A value stands behind an expression whose constants do not lead back to themselves. -/
theorem resolve_answers (straight : store.Straight expr) :
    ∃ value, store.resolve expr = .ok value ∧ store.LeadsTo expr value := by
  obtain ⟨value, resolved, leads⟩ := resolveWithin_ok (Nat.lt_succ_self _) straight
  have proper : Proper (store.resolveWithin ((Linked.mentioned store expr).card + 1) expr) := by
    rw [resolved]
    exact .ok value
  rw [resolve_eq, store.resolveWithin_linked.bound_suffices proper]
  exact ⟨value, resolved, leads⟩

end Store

end Shading
