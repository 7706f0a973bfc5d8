import Shading.Proofs.Decode.Passage
import Shading.Proofs.Decode.SymbolChronicle

/-!
Every decoder leads along a chronicle, from any state of a session, whether it gives a value or a
fault. Main statement: `Decoder.chronicle_afterCalls`.
-/

namespace Shading.Decode

open Stepping

variable {α : Type} {context : Context}

/-- Whether a chronicle leads from one state of a session to another. -/
def Chronicles (before after : Decoder) : Prop :=
  ∃ log, Chronicle .node before log after

theorem chronicles : Passage Chronicles where
  refl decoder := ⟨[], .nothing _ decoder⟩
  trans := by
    rintro before middle after ⟨log, first⟩ ⟨more, second⟩
    exact ⟨_, first.andThen second⟩
  read _ _ moved := ⟨[], .read moved⟩
  inside := by
    rintro before after table ⟨log, inner⟩
    exact ⟨log, .inside inner⟩
  waste decoder := ⟨[], .waste decoder⟩
  openTable decoder parent? := ⟨[], .openTable decoder parent?⟩
  bind decoder table symbol := ⟨[], .bind decoder table symbol⟩
  define decoder definitions := ⟨[], .attach decoder decoder.store.initials definitions⟩

theorem Prepares.chronicled {step : Decode α} (prepares : Prepares step) : Leads Chronicles step := by
  intro decoder
  cases ran : step decoder with
  | mk outcome after =>
    cases outcome with
    | error fault => exact prepares.faulted _ _ _ ran
    | ok value =>
      obtain ⟨log, chronicle⟩ := prepares.answered _ _ _ ran
      exact ⟨log, chronicle.between⟩

/-! ## Symbols and expressions -/

theorem symbol_prepares : Prepares symbol where
  answered decoder := (symbolWithin_prepares (decoder.reader.remaining + 1)).answered decoder
  faulted decoder := (symbolWithin_prepares (decoder.reader.remaining + 1)).faulted decoder

theorem type_chronicled : Leads Chronicles type :=
  chronicles.walk.type symbol_prepares.chronicled

theorem function_chronicled : Leads Chronicles function :=
  chronicles.walk.function symbol_prepares.chronicled

theorem table_chronicled (inherit : Bool) : Leads Chronicles (table inherit) :=
  chronicles.walk.table symbol_prepares.chronicled inherit

theorem expr_chronicled : Leads Chronicles (expr context) :=
  chronicles.walk.expr symbol_prepares.chronicled

/-! ## Initial values -/

theorem declare_chronicled (target : Variable) (baseType : Ty) (arraySize : Int32)
    (value? : Option Expr) :
    Leads Chronicles (do
      let (declaration, store) ← Declaration.make (← get).store target baseType arraySize value?
      changeStore fun _ => store
      return declaration) := by
  refine chronicles.exchange (Declaration.make · target baseType arraySize value?) ?_
  intro decoder declaration store made
  rcases (make_cases made).2 with unchanged | ⟨value, attached⟩
  · subst unchanged
    exact ⟨[], .nothing _ decoder⟩
  · rw [(Store.attachInitial_cases attached).2]
    exact ⟨[], .attach decoder _ _⟩

theorem declaration_chronicled : Leads Chronicles (declaration context) :=
  chronicles.walk.declaration symbol_prepares.chronicled declare_chronicled

theorem enumerator_chronicled (enumName : String) (symbol : Symbol) :
    Leads Chronicles (enumerator enumName symbol) :=
  chronicles.walk.enumerator declare_chronicled enumName symbol

theorem enumElement_chronicled : Leads Chronicles enumElement :=
  chronicles.walk.enumElement symbol_prepares.chronicled declare_chronicled

/-! ## Elements -/

theorem interfaceElement_chronicled : Leads Chronicles interfaceElement :=
  chronicles.walk.interfaceElement symbol_prepares.chronicled

theorem globalElement_chronicled : Leads Chronicles (globalElement context) :=
  chronicles.walk.globalElement symbol_prepares.chronicled declaration_chronicled

end Shading.Decode

namespace Shading

/-- Any calls lead along a chronicle, with or without answers. -/
theorem Decoder.chronicle_afterCalls (context : Context) (decoder : Decoder) (calls : List Call) :
    ∃ log, Chronicle .node decoder log (decoder.afterCalls context calls) :=
  Decode.chronicles.calls Decode.symbol_prepares.chronicled Decode.declaration_chronicled
    Decode.enumElement_chronicled decoder calls

end Shading
