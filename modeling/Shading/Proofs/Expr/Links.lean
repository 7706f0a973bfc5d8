import Mathlib.Data.Fintype.Prod
import Shading.Expr.Constant
import Shading.Proofs.Proper

/-!
Queries that follow constants. One link of a query either answers or asks for the values of
constants that the expression mentions, at no greater slots. From this alone it follows that more
room keeps an answer, and that as much room is enough as there are initial values and slots: a query
that does not end within it never does, and then a constant leads back to itself. Main statement:
`Linked.settles`.
-/

namespace Shading

/-! ## What queries follow -/

namespace Expr

mutual

/-- The variables whose values a query of an expression may go on to. -/
def followed : Expr → List Variable
  | .construct _ _ arguments => followedAll arguments
  | .prefixed _ _ operand => operand.followed
  | .binary _ left _ right => left.followed ++ right.followed
  | .reference _ target _ => [target]
  | _ => []

def followedAll : List Expr → List Variable
  | [] => []
  | argument :: rest => argument.followed ++ followedAll rest

end

end Expr

namespace Store

/-- One of some variables is a constant with an initial value. -/
def GoesTo (store : Store) (targets : List Variable) (value : Expr) : Prop :=
  ∃ target ∈ targets, target.modifiers.isConst = true ∧ store.initial? target = some value

/-- An expression mentions a constant, or constants lead on to a value that does. -/
inductive Mentions (store : Store) : Expr → Nat → Prop where
  | here {expr : Expr} {target : Variable} (followed : target ∈ expr.followed)
      (const : target.modifiers.isConst = true) : Mentions store expr target.id
  | on {expr value : Expr} {id : Nat} (goes : store.GoesTo expr.followed value)
      (later : Mentions store value id) : Mentions store expr id

/-- A variable whose initial value leads back to it. -/
def Circular (store : Store) (id : Nat) : Prop :=
  ∃ value, store.initials.lookup id = some value ∧ store.Mentions value id

end Store

/-! ## One link -/

/-- A query for the slots of expressions. -/
abbrev Query (α : Type) := Expr → Nat → Except Fault α

variable {α : Type}

/-- One link of a query, which may ask for some values at slots up to its own. -/
inductive Asks (reach : Expr → Prop) (slot : Nat) : (Query α → Except Fault α) → Prop where
  | answer {outcome : Except Fault α} (ends : Proper outcome) : Asks reach slot fun _ => outcome
  | ask {value : Expr} {inner : Nat} (reached : reach value) (lower : inner ≤ slot) :
      Asks reach slot fun next => next value inner
  | thenAsk {first : Query α → Except Fault α} {later : α → Query α → Except Fault α}
      (asksFirst : Asks reach slot first) (asksLater : ∀ answer, Asks reach slot (later answer)) :
      Asks reach slot fun next => first next >>= fun answer => later answer next

namespace Asks

variable {reach wider : Expr → Prop} {slot upper : Nat} {link : Query α → Except Fault α}
  {next other : Query α}

theorem mono (asks : Asks reach slot link) (widens : ∀ value, reach value → wider value)
    (raises : slot ≤ upper) : Asks wider upper link := by
  induction asks with
  | answer ends => exact .answer ends
  | ask reached lower => exact .ask (widens _ reached) (Nat.le_trans lower raises)
  | thenAsk _ _ firstHypothesis laterHypothesis => exact .thenAsk firstHypothesis laterHypothesis

theorem ofLeft {store : Store} {left right : List Variable} {inner : Nat}
    (asks : Asks (store.GoesTo left) inner link) (lower : inner ≤ slot) :
    Asks (store.GoesTo (left ++ right)) slot link := by
  refine asks.mono ?_ lower
  rintro value ⟨target, member, const, found⟩
  exact ⟨target, List.mem_append_left right member, const, found⟩

theorem ofRight {store : Store} {left right : List Variable} {inner : Nat}
    (asks : Asks (store.GoesTo right) inner link) (lower : inner ≤ slot) :
    Asks (store.GoesTo (left ++ right)) slot link := by
  refine asks.mono ?_ lower
  rintro value ⟨target, member, const, found⟩
  exact ⟨target, List.mem_append_right left member, const, found⟩

theorem either {condition : Prop} [Decidable condition]
    {whenTrue whenFalse : Query α → Except Fault α} (asksTrue : Asks reach slot whenTrue)
    (asksFalse : Asks reach slot whenFalse) :
    Asks reach slot fun next => if condition then whenTrue next else whenFalse next := by
  by_cases holds : condition
  · simpa only [holds, if_true] using asksTrue
  · simpa only [holds, if_false] using asksFalse

/-- A link may begin with something that asks for nothing. -/
theorem after {β : Type} {outcome : Except Fault β} {later : β → Query α → Except Fault α}
    (ends : Proper outcome) (asks : ∀ value, Asks reach slot (later value)) :
    Asks reach slot fun next => outcome >>= fun value => later value next := by
  cases outcome with
  | error fault => exact .answer (.error (ends fault rfl))
  | ok value => exact asks value

/-- A link ends if all that it may ask for does. -/
theorem proper (asks : Asks reach slot link)
    (ends : ∀ value inner, reach value → inner ≤ slot → Proper (next value inner)) :
    Proper (link next) := by
  induction asks with
  | answer proper => exact proper
  | ask reached lower => exact ends _ _ reached lower
  | thenAsk _ _ firstHypothesis laterHypothesis =>
    exact firstHypothesis.bind fun answer _ => laterHypothesis answer

/-- An answer stays when what was asked for has the same answers. -/
theorem agrees (asks : Asks reach slot link) (ends : Proper (link next))
    (same : ∀ value inner, reach value → inner ≤ slot → Proper (next value inner) →
      other value inner = next value inner) : link other = link next := by
  induction asks with
  | answer => rfl
  | ask reached lower => exact same _ _ reached lower ends
  | @thenAsk first later _ _ firstHypothesis laterHypothesis =>
    dsimp only at ends ⊢
    cases asked : first next with
    | error fault =>
      rw [asked] at ends firstHypothesis
      rw [firstHypothesis ends]
      rfl
    | ok answer =>
      rw [asked] at ends firstHypothesis
      rw [firstHypothesis (Proper.ok answer)]
      exact laterHypothesis answer ends

/-- A link is cut off only by what it asks for. -/
theorem proper_or_cut (asks : Asks reach slot link)
    (either : ∀ value inner,
      Proper (next value inner) ∨ next value inner = .error .circularConstant) :
    Proper (link next) ∨ link next = .error .circularConstant := by
  induction asks with
  | answer proper => exact Or.inl proper
  | ask => exact either _ _
  | @thenAsk first later _ _ firstHypothesis laterHypothesis =>
    dsimp only
    cases asked : first next with
    | error fault =>
      rw [asked] at firstHypothesis
      rcases firstHypothesis with proper | cut
      · exact Or.inl (proper.bind fun answer same => by cases same)
      · rw [cut]
        exact Or.inr rfl
    | ok answer => exact laterHypothesis answer

end Asks

/-! ## Many links -/

/-- A query that is cut off after a number of links. -/
structure Linked (store : Store) (within : Nat → Query α) : Prop where
  cut : ∀ expr slot, within 0 expr slot = .error .circularConstant
  link : ∀ expr slot, ∃ link, Asks (store.GoesTo expr.followed) slot link ∧
    ∀ bound, within (bound + 1) expr slot = link (within bound)

theorem not_proper_circularConstant :
    ¬Proper (.error .circularConstant : Except Fault α) := by
  intro proper
  cases proper .circularConstant rfl

theorem Store.exists_index_of_lookup {store : Store} {id : Nat} {value : Expr}
    (found : store.initials.lookup id = some value) :
    ∃ index : Fin store.initials.length, store.initials.get index = (id, value) := by
  obtain ⟨before, after, same, _⟩ := List.lookup_eq_some_iff.mp found
  have member : (id, value) ∈ store.initials := by
    rw [same]
    exact List.mem_append_right before List.mem_cons_self
  exact List.mem_iff_get.mp member

/-- Growing sets of at most some size come to a stage that adds nothing. -/
theorem exists_pause {β : Type} {stage : Nat → Finset β} {size : Nat}
    (grows : ∀ step, stage step ⊆ stage (step + 1)) (small : ∀ step, (stage step).card ≤ size) :
    ∃ step ≤ size, stage (step + 1) = stage step := by
  by_contra moving
  have large : ∀ step ≤ size + 1, step ≤ (stage step).card := by
    intro step
    induction step with
    | zero => simp
    | succ step inductionHypothesis =>
      intro early
      have before := inductionHypothesis (by omega)
      have different : stage step ≠ stage (step + 1) := by
        intro same
        exact moving ⟨step, by omega, same.symm⟩
      have more := Finset.card_lt_card ((grows step).ssubset_of_ne different)
      omega
  have tooLarge := large (size + 1) (Nat.le_refl _)
  have bounded := small (size + 1)
  omega

namespace Linked

variable {store : Store} {within : Nat → Query α} (linked : Linked store within)
include linked

theorem proper_pos {bound slot : Nat} {expr : Expr} (ends : Proper (within bound expr slot)) :
    0 < bound := by
  cases bound with
  | zero =>
    rw [linked.cut] at ends
    exact absurd ends not_proper_circularConstant
  | succ bound => exact Nat.succ_pos bound

theorem succ_of_proper {bound slot : Nat} {expr : Expr} (ends : Proper (within bound expr slot)) :
    within (bound + 1) expr slot = within bound expr slot := by
  induction bound generalizing expr slot with
  | zero => exact absurd (linked.proper_pos ends) (Nat.lt_irrefl 0)
  | succ bound inductionHypothesis =>
    obtain ⟨link, asks, same⟩ := linked.link expr slot
    rw [same] at ends
    rw [same, same]
    exact asks.agrees ends fun value inner _ _ proper => inductionHypothesis proper

/-- More room keeps an answer. -/
theorem of_le {bound more slot : Nat} {expr : Expr} (ends : Proper (within bound expr slot))
    (le : bound ≤ more) : within more expr slot = within bound expr slot := by
  induction le with
  | refl => rfl
  | step _ inductionHypothesis =>
    rw [← inductionHypothesis] at ends ⊢
    exact linked.succ_of_proper ends

omit linked in
open Classical in
/-- The initial values and slots up to a limit for which a query ends within a bound. -/
noncomputable def ended (store : Store) (within : Nat → Query α) (limit bound : Nat) :
    Finset (Fin store.initials.length × Fin (limit + 1)) :=
  Finset.univ.filter fun node => Proper (within bound (store.initials.get node.1).2 node.2)

omit linked in
theorem mem_ended {limit bound : Nat} {node : Fin store.initials.length × Fin (limit + 1)} :
    node ∈ ended store within limit bound ↔
      Proper (within bound (store.initials.get node.1).2 node.2) := by
  simp only [ended, Finset.mem_filter, Finset.mem_univ, true_and]

omit linked in
theorem card_ended_le (limit bound : Nat) :
    (ended store within limit bound).card ≤ store.initials.length * (limit + 1) := by
  have whole := (ended store within limit bound).card_le_univ
  rw [Fintype.card_prod, Fintype.card_fin, Fintype.card_fin] at whole
  exact whole

theorem ended_subset (limit bound : Nat) :
    ended store within limit bound ⊆ ended store within limit (bound + 1) := by
  intro node member
  rw [mem_ended] at member ⊢
  rw [linked.succ_of_proper member]
  exact member

/-- What ends within one bound up to a slot ends within another, if the initial values do. -/
theorem agrees_of_ended {limit bound other slot : Nat} {expr : Expr} (below : slot ≤ limit)
    (same : ended store within limit bound ⊆ ended store within limit other)
    (ends : Proper (within (bound + 1) expr slot)) :
    within (other + 1) expr slot = within (bound + 1) expr slot := by
  obtain ⟨link, asks, steps⟩ := linked.link expr slot
  rw [steps] at ends
  rw [steps, steps]
  refine asks.agrees ends fun value inner goes lower proper => ?_
  obtain ⟨target, _, _, initial⟩ := goes
  obtain ⟨index, found⟩ := Store.exists_index_of_lookup initial
  have inside : inner < limit + 1 := by omega
  have here : (index, ⟨inner, inside⟩) ∈ ended store within limit bound := by
    rw [mem_ended, found]
    exact proper
  have there := mem_ended.mp (same here)
  rw [found] at there
  rcases Nat.le_total bound other with le | le
  · exact linked.of_le proper le
  · exact (linked.of_le there le).symm

/-- From a stage that adds nothing on, no later one does. -/
theorem ended_of_pause {limit step : Nat}
    (pause : ended store within limit (step + 1) = ended store within limit step) (more : Nat) :
    ended store within limit (step + more) = ended store within limit step := by
  induction more with
  | zero => rfl
  | succ more inductionHypothesis =>
    refine Finset.Subset.antisymm ?_ ?_
    · intro node member
      rw [mem_ended] at member
      have same : ended store within limit (step + more) ⊆ ended store within limit step := by
        rw [inductionHypothesis]
      have early := linked.agrees_of_ended (Nat.le_of_lt_succ node.2.isLt) same member
      rw [← pause, mem_ended, early]
      exact member
    · rw [← inductionHypothesis]
      exact linked.ended_subset limit (step + more)

/-- As much room is enough as there are initial values and slots. -/
theorem bound_suffices {bound slot : Nat} {expr : Expr} (ends : Proper (within bound expr slot)) :
    within (store.linkBound slot) expr slot = within bound expr slot := by
  obtain ⟨step, early, pause⟩ := exists_pause (linked.ended_subset slot) (card_ended_le slot)
  obtain ⟨inner, rfl⟩ : ∃ inner, bound = inner + 1 :=
    Nat.exists_eq_succ_of_ne_zero (Nat.pos_iff_ne_zero.mp (linked.proper_pos ends))
  refine linked.agrees_of_ended (Nat.le_refl slot) ?_ ends
  rcases Nat.le_total inner (store.initials.length * (slot + 1)) with le | le
  · exact monotone_nat_of_le_succ (linked.ended_subset slot) le
  · have whole := linked.ended_of_pause pause (inner - step)
    have last := linked.ended_of_pause pause (store.initials.length * (slot + 1) - step)
    rw [Nat.add_sub_cancel' (by omega)] at whole last
    rw [whole, last]

/-- A query within a bound ends or is cut off; it faults in no other endless way. -/
theorem proper_or_cut (bound : Nat) (expr : Expr) (slot : Nat) :
    Proper (within bound expr slot) ∨ within bound expr slot = .error .circularConstant := by
  induction bound generalizing expr slot with
  | zero => exact Or.inr (linked.cut expr slot)
  | succ bound inductionHypothesis =>
    obtain ⟨link, asks, same⟩ := linked.link expr slot
    rw [same]
    exact asks.proper_or_cut inductionHypothesis

/-! ## Circles -/

omit linked in
open Classical in
/-- The initial values that an expression leads to. -/
noncomputable def mentioned (store : Store) (expr : Expr) : Finset (Fin store.initials.length) :=
  Finset.univ.filter fun index => store.Mentions expr (store.initials.get index).1

omit linked in
theorem mem_mentioned {expr : Expr} {index : Fin store.initials.length} :
    index ∈ mentioned store expr ↔ store.Mentions expr (store.initials.get index).1 := by
  simp only [mentioned, Finset.mem_filter, Finset.mem_univ, true_and]

omit linked in
/-- A link to a value that does not lead back leaves fewer initial values to come to. -/
theorem card_mentioned_lt {expr value : Expr} (goes : store.GoesTo expr.followed value)
    (straight : ∀ id, store.Mentions expr id → ¬store.Circular id) :
    (mentioned store value).card < (mentioned store expr).card := by
  have onward : mentioned store value ⊆ mentioned store expr := by
    intro other member
    exact mem_mentioned.mpr (.on goes (mem_mentioned.mp member))
  obtain ⟨target, followed, const, found⟩ := goes
  obtain ⟨index, here⟩ := Store.exists_index_of_lookup found
  have reached : store.Mentions expr target.id := .here followed const
  have first : index ∈ mentioned store expr := by
    rw [mem_mentioned, here]
    exact reached
  have notAgain : index ∉ mentioned store value := by
    rw [mem_mentioned, here]
    exact fun back => straight target.id reached ⟨value, found, back⟩
  exact Finset.card_lt_card (Finset.ssubset_iff_subset_ne.mpr
    ⟨onward, fun same => notAgain (same ▸ first)⟩)

theorem proper_of_straight {bound : Nat} {expr : Expr} (room : (mentioned store expr).card < bound)
    (straight : ∀ id, store.Mentions expr id → ¬store.Circular id) (slot : Nat) :
    Proper (within bound expr slot) := by
  induction bound generalizing expr slot with
  | zero => exact absurd room (Nat.not_lt_zero _)
  | succ bound inductionHypothesis =>
    obtain ⟨link, asks, same⟩ := linked.link expr slot
    rw [same]
    refine asks.proper fun value inner goes _ => inductionHypothesis ?_ ?_ inner
    · have fewer := card_mentioned_lt goes straight
      omega
    · intro id mentioned
      exact straight id (.on goes mentioned)

omit linked in
/-- How a query comes out that is answered within the bound for its slot: it ends, and more room
changes nothing, or no room is enough, because a constant leads back to itself. -/
inductive Settles (store : Store) (expr : Expr) (within : Nat → Except Fault α)
    (answer : Except Fault α) : Prop where
  | ends (proper : Proper answer) (bound : Nat)
      (kept : ∀ more, bound ≤ more → within more = answer) : Settles store expr within answer
  | circles (id : Nat) (mentioned : store.Mentions expr id) (circular : store.Circular id)
      (cut : answer = .error .circularConstant)
      (endless : ∀ bound, within bound = .error .circularConstant) :
      Settles store expr within answer

theorem settles (expr : Expr) (slot : Nat) :
    Settles store expr (within · expr slot) (within (store.linkBound slot) expr slot) := by
  rcases linked.proper_or_cut (store.linkBound slot) expr slot with ends | cut
  · exact .ends ends (store.linkBound slot) fun more le => linked.of_le ends le
  · have endless (bound : Nat) : within bound expr slot = .error .circularConstant := by
      rcases linked.proper_or_cut bound expr slot with proper | same
      · have enough := linked.bound_suffices proper
        rw [← enough, cut] at proper
        exact absurd proper not_proper_circularConstant
      · exact same
    have circle : ∃ id, store.Mentions expr id ∧ store.Circular id := by
      by_contra none
      have proper := linked.proper_of_straight (Nat.lt_succ_self (mentioned store expr).card)
        (fun id mentioned circular => none ⟨id, mentioned, circular⟩) slot
      rw [endless] at proper
      exact not_proper_circularConstant proper
    obtain ⟨id, mentioned, circular⟩ := circle
    exact .circles id mentioned circular cut endless

end Linked

end Shading
