import Shading.Proofs.Decode.Session
import Shading.Proofs.Expr.Links

/-!
How constants come to lead back to themselves. Only an initial value that is attached to a variable
to which it leads closes a circle, and circles stay. So the states without a circle are those in
which each value was attached before anything it leads to was closed over it; decoding attaches
values as any other caller does, and looks no further. Main statement: `Store.orderly_iff`.
-/

namespace Shading

namespace Store

variable {store next : Store} {target : Variable} {value expr : Expr} {id : Nat}

theorem mentions_iff :
    store.Mentions expr id ↔
      (∃ target ∈ expr.followed, target.modifiers.isConst = true ∧ target.id = id) ∨
        ∃ value, store.GoesTo expr.followed value ∧ store.Mentions value id := by
  constructor
  · intro mentions
    cases mentions with
    | here followed const => exact Or.inl ⟨_, followed, const, rfl⟩
    | on goes later => exact Or.inr ⟨_, goes, later⟩
  · rintro (⟨target, followed, const, rfl⟩ | ⟨value, goes, later⟩)
    · exact .here followed const
    · exact .on goes later

theorem not_mentions_of_followed (none : expr.followed = []) : ¬store.Mentions expr id := by
  rw [mentions_iff, none]
  rintro (⟨target, followed, _⟩ | ⟨value, ⟨target, followed, _⟩, _⟩) <;> cases followed

theorem Mentions.mono (mentions : store.Mentions expr id)
    (kept : ∀ id value, store.initials.lookup id = some value →
      next.initials.lookup id = some value) : next.Mentions expr id := by
  induction mentions with
  | here followed const => exact .here followed const
  | on goes _ inductionHypothesis =>
    obtain ⟨target, followed, const, found⟩ := goes
    exact .on ⟨target, followed, const, kept target.id _ found⟩ inductionHypothesis

theorem Circular.mono (circular : store.Circular id)
    (kept : ∀ id value, store.initials.lookup id = some value →
      next.initials.lookup id = some value) : next.Circular id := by
  obtain ⟨value, found, back⟩ := circular
  exact ⟨value, kept id value found, back.mono kept⟩

/-- What leads to a variable leads to all that its initial value leads to. -/
theorem Mentions.trans {middle : Expr} {last : Nat} (first : store.Mentions expr id)
    (found : store.initials.lookup id = some middle) (second : store.Mentions middle last) :
    store.Mentions expr last := by
  induction first with
  | here followed const => exact .on ⟨_, followed, const, found⟩ second
  | on goes _ inductionHypothesis => exact .on goes (inductionHypothesis found)

/-! ## Attaching -/

/-- What a later state leads to, either the earlier one did or the attached value does. -/
theorem Mentions.before (mentions : next.Mentions expr id)
    (attached : store.attachInitial target value = .ok next) :
    store.Mentions expr id ∨ store.Mentions expr target.id ∧ store.Mentions value id := by
  induction mentions with
  | here followed const => exact Or.inl (.here followed const)
  | @on expr first id goes _ inductionHypothesis =>
    obtain ⟨through, followed, const, found⟩ := goes
    by_cases same : through.id = target.id
    · have reaches : store.Mentions expr through.id := .here followed const
      rw [same] at reaches
      rw [initial?, same, lookup_attached attached] at found
      cases found
      rcases inductionHypothesis with direct | ⟨_, direct⟩
      · exact Or.inr ⟨reaches, direct⟩
      · exact Or.inr ⟨reaches, direct⟩
    · rw [initial?, lookup_attached_of_ne attached same] at found
      have goes : store.GoesTo expr.followed first := ⟨through, followed, const, found⟩
      rcases inductionHypothesis with direct | ⟨reaches, direct⟩
      · exact Or.inl (.on goes direct)
      · exact Or.inr ⟨.on goes reaches, direct⟩

/-- A circle of a later state was there before, or the attached value closes it. -/
theorem Circular.before (circular : next.Circular id)
    (attached : store.attachInitial target value = .ok next) :
    store.Circular id ∨ store.Mentions value target.id := by
  obtain ⟨first, found, back⟩ := circular
  by_cases same : id = target.id
  · rw [same] at found back
    rw [lookup_attached attached] at found
    cases found
    rcases back.before attached with direct | ⟨direct, _⟩
    · exact Or.inr direct
    · exact Or.inr direct
  · rw [lookup_attached_of_ne attached same] at found
    rcases back.before attached with direct | ⟨reaches, returns⟩
    · exact Or.inl ⟨first, found, direct⟩
    · exact Or.inr (returns.trans found reaches)

/-- Attaching keeps a state straight exactly if the value does not lead to its variable. -/
theorem straight_attached_iff (attached : store.attachInitial target value = .ok next) :
    (∀ id, ¬next.Circular id) ↔
      (∀ id, ¬store.Circular id) ∧ ¬store.Mentions value target.id := by
  have kept := lookup_kept attached
  constructor
  · intro straight
    refine ⟨fun id circular => straight id (circular.mono kept), fun back => ?_⟩
    exact straight target.id ⟨value, lookup_attached attached, back.mono kept⟩
  · rintro ⟨straight, apart⟩ id circular
    rcases circular.before attached with earlier | back
    · exact straight id earlier
    · exact apart back

/-! ## Reached states -/

/-- The states that attaching allowed values leads to, between changes to anything else. -/
inductive Attached (allowed : Store → Variable → Expr → Prop) : Store → Prop where
  | blank {store : Store} (none : store.initials = []) : Attached allowed store
  | attach {store next : Store} {target : Variable} {value : Expr}
      (earlier : Attached allowed store) (allows : allowed store target value)
      (attached : store.attachInitial target value = .ok next) : Attached allowed next
  | change {store next : Store} (earlier : Attached allowed store)
      (same : next.initials = store.initials) : Attached allowed next

/-- The states that attaching any values leads to. -/
def Reached : Store → Prop :=
  Attached fun _ _ _ => True

/-- The states of callers that attach no value to a variable it leads to. -/
def Orderly : Store → Prop :=
  Attached fun store target value => ¬store.Mentions value target.id

theorem Orderly.straight (orderly : store.Orderly) (id : Nat) : ¬store.Circular id := by
  induction orderly generalizing id with
  | blank none =>
    rintro ⟨value, found, _⟩
    rw [none] at found
    cases found
  | attach _ apart attached inductionHypothesis =>
    exact (straight_attached_iff attached).mpr ⟨inductionHypothesis, apart⟩ id
  | change _ same inductionHypothesis =>
    intro circular
    exact inductionHypothesis id (circular.mono fun id value found => same ▸ found)

/-- A reached state is straight exactly if no caller attached a value to a variable it leads to. -/
theorem orderly_iff (reached : store.Reached) :
    store.Orderly ↔ ∀ id, ¬store.Circular id := by
  refine ⟨Orderly.straight, ?_⟩
  induction reached with
  | blank none => exact fun _ => .blank none
  | attach _ _ attached inductionHypothesis =>
    intro straight
    have both := (straight_attached_iff attached).mp straight
    exact .attach (inductionHypothesis both.1) both.2 attached
  | change _ same inductionHypothesis =>
    intro straight
    refine .change (inductionHypothesis fun id circular => straight id ?_) same
    exact circular.mono fun id value found => same ▸ found

end Store

/-! ## Decoding -/

theorem Change.reached {origin : Origin} {level : Level} {before after : Decoder}
    {events : List Event} (changed : Change origin level before events after)
    (reached : before.store.Reached) : after.store.Reached := by
  cases changed with
  | read | tag | grow | register => exact reached
  | attach _ attached => exact .attach reached trivial attached
  | define _ defined =>
    rw [Store.define_cases defined]
    exact .change reached rfl
  | create | waste | openTable | bind | release => exact .change reached rfl

theorem History.reached {origin : Origin} {level : Level} {before after : Decoder}
    {events : List Event} (history : History origin level before events after)
    (reached : before.store.Reached) : after.store.Reached := by
  induction history with
  | nothing => exact reached
  | change changed => exact changed.reached reached
  | andThen _ _ firstHypothesis secondHypothesis =>
    exact secondHypothesis (firstHypothesis reached)
  | record _ inductionHypothesis => exact inductionHypothesis reached
  | inside _ _ _ inductionHypothesis => exact inductionHypothesis reached

/-- A session over a reached state comes to reached states only, whatever the blob holds. -/
theorem Decoder.reached_afterCalls {store : Store} {active : TableId} {bytes : Array UInt8}
    {decoder : Decoder} (started : start store active bytes = .ok (.ok decoder))
    (reached : store.Reached) (context : Context) (calls : List Call) :
    (decoder.afterCalls context calls).store.Reached := by
  have sound := (Origin.ofStore_starts store).sound started
  obtain ⟨events, history⟩ := sound.histories context calls
  obtain ⟨_, reader, _, same⟩ := start_cases started
  refine history.reached ?_
  rw [same]
  exact reached

end Shading
