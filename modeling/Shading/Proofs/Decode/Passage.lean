import Shading.Proofs.Decode.Walk

/-!
What every decoder does to a session, from what each of its changes does. A `Passage` is a relation
of sessions that the changes respect; every decoder then leads along it, whether it gives a value or
a fault. New initial values each passage has to account for itself. Main statement:
`Passage.walk`.
-/

namespace Shading.Decode

open Stepping

variable {α : Type} {context : Context} {relation : Decoder → Decoder → Prop}

/-- A step that leads from every session to one in relation to it. -/
def Leads (relation : Decoder → Decoder → Prop) (step : Decode α) : Prop :=
  ∀ decoder, relation decoder (step decoder).2

/-- A relation of sessions that holds across every change outside the records of symbols, but for
new initial values. -/
structure Passage (relation : Decoder → Decoder → Prop) : Prop where
  refl : ∀ decoder, relation decoder decoder
  trans : ∀ {before middle after}, relation before middle → relation middle after →
    relation before after
  read : ∀ (decoder : Decoder) (reader : Reader), decoder.reader.Advances reader →
    relation decoder { decoder with reader }
  inside : ∀ {before after : Decoder} {table : TableId},
    relation { before with active := table } after →
    relation before { after with active := before.active }
  waste : ∀ decoder : Decoder, relation decoder { decoder with store := decoder.store.fresh.2 }
  openTable : ∀ (decoder : Decoder) (parent? : Option TableId),
    relation decoder { decoder with store := (decoder.store.newTable parent? true).2 }
  bind : ∀ (decoder : Decoder) (table : TableId) (symbol : Symbol),
    relation decoder { decoder with store := decoder.store.bind table symbol }
  define : ∀ (decoder : Decoder) (definitions : List (Nat × DefinitionLink)),
    relation decoder { decoder with store := { decoder.store with definitions } }

namespace Passage

variable (passage : Passage relation)
include passage

theorem after {β : Type} {first : Decode α} {next : α → Decode β} (earlier : Leads relation first)
    (later : ∀ value, Leads relation (next value)) : Leads relation (first >>= next) := by
  intro decoder
  have led := earlier decoder
  rw [bind_apply]
  cases ran : first decoder with
  | mk outcome middle =>
    rw [ran] at led
    cases outcome with
    | error fault => exact led
    | ok value => exact passage.trans led (later value middle)

theorem withActive {step : Decode α} (leads : Leads relation step) (table : TableId) :
    Leads relation (Decode.withActive table step) :=
  fun decoder => passage.inside (leads { decoder with active := table })

theorem within {step : Decode α} (leads : Leads relation step) (table? : Option TableId) :
    Leads relation (Decode.within table? step) := by
  cases table? with
  | none => exact leads
  | some id => exact passage.withActive leads id

/-- The store is exchanged for one that an operation made from it. -/
theorem exchange (make : Store → Except Fault (α × Store))
    (changed : ∀ (decoder : Decoder) value store, make decoder.store = .ok (value, store) →
      relation decoder { decoder with store }) :
    Leads relation (do
      let (value, store) ← make (← get).store
      changeStore fun _ => store
      return value) := by
  intro decoder
  rw [bind_ok (get_apply decoder), bind_apply, lift_apply]
  cases made : make decoder.store with
  | error fault => exact passage.refl decoder
  | ok result => exact changed decoder result.1 result.2 made

theorem defineFunction (declaration : Function) (body : Stmt) (referenced : List Function) :
    Leads relation (do
      let (element, store) ←
        Element.defineFunction (← get).store declaration true body referenced
      changeStore fun _ => store
      return element) := by
  refine passage.exchange (Element.defineFunction · declaration true body referenced) ?_
  intro decoder element store made
  obtain ⟨defined, isDefined, same⟩ := exists_of_bind_ok made
  cases same
  rw [Store.define_cases isDefined]
  exact passage.trans (passage.waste decoder) (passage.define _ _)

/-- An element that is held on to loses at most its definition, once the step is over. -/
theorem released (element : Element) (step : Decode α) (decoder : Decoder) :
    relation (step decoder).2 (Decode.holding element step decoder).2 := by
  rw [Decode.holding]
  cases step decoder with
  | mk outcome after =>
    cases outcome with
    | ok value => exact passage.refl after
    | error fault =>
      cases element with
      | function definition => exact passage.define after _
      | _ => exact passage.refl after

theorem holding {step : Decode α} (element : Element) (leads : Leads relation step) :
    Leads relation (Decode.holding element step) :=
  fun decoder => passage.trans (leads decoder) (passage.released element step decoder)

/-- Every decoder leads along a passage that symbols and new initial values lead along. -/
theorem walk : Walk (Leads relation) where
  pure _ := passage.refl
  throw _ := passage.refl
  lift _ := passage.refl
  current := passage.refl
  next forward decoder := passage.read decoder _ (forward.advances decoder.reader)
  after := passage.after
  bindName table symbol decoder := passage.bind decoder table symbol
  insideNew inherit _ _ content rest := by
    have opened : Leads relation (Decode.openTable inherit) :=
      fun decoder => passage.openTable decoder _
    refine passage.after opened fun id => ?_
    exact passage.after (passage.withActive (content id) id) (rest id)
  insideDecoded decoded content :=
    passage.after decoded fun table? => passage.within (content table?) table?
  defineFunction := passage.defineFunction
  holding := passage.holding

/-- Any number of calls leads along it as well, with or without answers. -/
theorem calls (symbol : Leads relation symbol) (declaration : Leads relation (declaration context))
    (enumElement : Leads relation enumElement) (decoder : Decoder) (calls : List Call) :
    relation decoder (decoder.afterCalls context calls) := by
  induction calls generalizing decoder with
  | nil => exact passage.refl decoder
  | cons call rest inductionHypothesis =>
    have led := passage.walk.call symbol declaration enumElement call decoder
    exact passage.trans led (inductionHypothesis (decoder.afterCall context call))

end Passage

end Shading.Decode
