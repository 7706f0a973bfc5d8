import Shading.Proofs.Decode.Stmt

/-!
The accounts of program elements. Every decoded element is made of built declarations and
statements, and a function that gets its definition is newer than the origin.
-/

namespace Shading.Decode

open Stepping

variable {origin : Origin} {bound : Nat} {context : Context} {α : Type}

theorem enumerator_accounts (context : Context) (enumName : String) {symbol : Symbol}
    (recent : origin.ids ≤ symbol.id) :
    Accounts origin .node bound anywhere (enumerator enumName symbol)
      fun declaration _ => declaration.Built context origin.types := by
  cases symbol with
  | var target =>
    apply Accounts.nextThen Read.s32_forward
    intro value
    apply declare_accounts recent target.type 0
    intro expr same
    cases same
    exact .ofPlainInt _ _
  | _ => exact .throw rfl

theorem enumElement_accounts (context : Context) :
    Accounts origin .node bound anywhere enumElement
      fun element _ => element.Built context origin.types := by
  apply Accounts.nextThen Read.string_forward
  intro name
  apply (table_consumes false).accounts.bind
  intro table?
  cases table? with
  | none => exact .throw rfl
  | some id =>
    -- What follows depends on the table as it is now, so one session is looked at.
    intro decoder ready opened
    have recent := ready.sound.recent id (opened id rfl).1
    dsimp only
    rw [bind_ok (get_apply decoder)]
    have enumerators : Accounts origin .node bound anywhere
        ((decoder.store.owned id).mapM (enumerator name))
        fun declarations _ => ∀ declaration ∈ declarations,
          declaration.Built context origin.types :=
      .mapM _ fun symbol member => enumerator_accounts context name (recent symbol member)
    have enum : Accounts origin .node bound anywhere
        ((decoder.store.owned id).mapM (enumerator name) >>= fun declarations =>
          pure (Element.enum { name, table := id, declarations, builtin := true }))
        fun (element : Element) _ => element.Built context origin.types :=
      enumerators.thenKnown fun declarations built => .pure fun _ _ => .enum built
    exact enum decoder ready trivial

theorem functionElement_accounts (context : Context) :
    Accounts origin .node bound anywhere (functionElement context)
      fun element _ => element.Built context origin.types := by
  apply function_accounts.thenKnown
  intro declaration recent
  apply (stmt_consumes context).accounts.present.thenKnown
  intro body bodyBuilt
  apply Accounts.nextThen Read.u8_forward
  intro count
  apply (function_accounts.timesKnown count.toNat).thenKnown
  intro referenced _
  refine .exchange (Element.defineFunction_proper · declaration true body referenced) ?_
  intro decoder element store made
  obtain ⟨defined, isDefined, same⟩ := exists_of_bind_ok made
  cases same
  exact ⟨.function bodyBuilt, .change (.define recent isDefined)⟩

theorem interfaceElement_accounts (context : Context) :
    Accounts origin .node bound anywhere interfaceElement
      fun element _ => element.Built context origin.types := by
  apply targetVariable_accounts.thenKnown
  intro target _
  apply Accounts.nextThen Read.string_forward
  intro name
  apply Accounts.nextThen Read.string_forward
  intro instanceName
  apply Accounts.nextThen Read.s8_forward
  intro arraySize
  exact .pure fun _ _ => .interfaceBlock _

theorem globalElement_accounts (context : Context) :
    Accounts origin .node bound anywhere (globalElement context)
      fun element _ => element.Built context origin.types := by
  apply (stmt_consumes context).accounts.thenKnown
  intro statement? built
  cases statement? with
  | none => exact .throw rfl
  | some statement =>
    cases statement with
    | declare declaration => exact .pure fun _ _ => .global (built _ rfl).declaration
    | _ => exact .throw rfl

theorem element_consumes (context : Context) :
    Consumes origin .node bound (element context)
      fun element? _ => ∀ element ∈ element?, element.Built context origin.types := by
  apply Consumes.shallower
  apply Consumes.tagged
  intro tag
  split
  · exact (enumElement_accounts context).given?
  · exact (functionElement_accounts context).given?
  · exact (interfaceElement_accounts context).given?
  · exact (globalElement_accounts context).given?
  · apply type_consumes.accounts.thenKnown
    intro type known
    apply Accounts.pure
    intro _ _ element same
    cases same
    exact .struct known
  · exact .pure fun _ _ element absent => absurd absent (Option.not_mem_none element)
  · exact .throw rfl

/-- An element that is held on to loses at most its definition. -/
theorem holding_accounts {step : Decode α} {pre : Decoder → Prop} {post : α → Decoder → Prop}
    (element : Element) (account : Accounts origin .node bound pre step post) :
    Accounts origin .node bound pre (holding element step) post := by
  intro decoder ready holds
  have outcome := account decoder ready holds
  rw [holding]
  cases ran : step decoder with
  | mk result after =>
    rw [ran] at outcome
    obtain ⟨events, history⟩ := outcome.history
    cases result with
    | ok value => exact outcome
    | error fault =>
      have dropped : History origin .node after []
          { after with store := element.release after.store } := by
        cases element with
        | function definition => exact .change (.release definition.id)
        | _ => exact .nothing _ after
      exact .fault (history.andThen dropped) (outcome.proper fault rfl)

theorem elementsWithin_consumes (context : Context) (depth : Nat) :
    Consumes origin .node depth (elementsWithin context depth)
      fun elements _ => ∀ element ∈ elements, element.Built context origin.types := by
  induction depth with
  | zero => exact fun _ => .noRoom
  | succ depth inductionHypothesis =>
    apply (element_consumes context).thenShallower
    intro element?
    apply Accounts.given
    intro built
    cases element? with
    | none => exact .pure fun _ _ element absent => absurd absent List.not_mem_nil
    | some first =>
      have rest := holding_accounts first inductionHypothesis.accounts
      apply rest.thenKnown
      intro others othersBuilt
      apply Accounts.pure
      intro _ _ element member
      rcases List.mem_cons.mp member with same | inOthers
      · subst same
        exact built _ rfl
      · exact othersBuilt element inOthers

theorem elements_consumes (context : Context) :
    Consumes origin .node bound (elements context)
      fun elements _ => ∀ element ∈ elements, element.Built context origin.types := by
  apply Consumes.shallower
  apply Consumes.tagged
  intro tag
  split
  · exact (Consumes.nested (elementsWithin_consumes context)).accounts
  · exact .throw rfl

end Shading.Decode
