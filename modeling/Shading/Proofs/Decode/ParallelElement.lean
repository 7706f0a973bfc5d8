import Shading.Proofs.Decode.ParallelStmt

/-!
Program elements and whole programs of two parallel sessions: they decode to programs that are
alike, and the tables of both programs own symbols that are alike.
-/

namespace Shading

open Renamable (rename)

/-- Two programs that are alike, of which both sessions opened the table. -/
structure Parallel.Programs (parallel : Parallel) (_ : Nat) (program program' : Program) :
    Prop where
  alike : Alike parallel.first parallel.second program program'
  opened : ∀ table ∈ program.table?, parallel.Opened table

namespace Decode

open Parallel Stepping

variable {α β : Type} {parallel : Parallel} {bound : Nat}

theorem enumerator_follows (enumName : String) {symbol symbol' : Symbol}
    (drawn : parallel.Drawn bound symbol.id)
    (alike : Alike parallel.first parallel.second symbol symbol') :
    parallel.Follows bound (enumerator enumName symbol) (enumerator enumName symbol')
      parallel.Values := by
  cases symbol with
  | var target =>
    cases symbol' with
    | var target' =>
      apply Follows.nextThen Read.s32_local
      intro value
      have targets : Alike parallel.first parallel.second target target' := Symbol.var.inj alike
      have types : Alike parallel.first parallel.second target.type target'.type :=
        congrArg Variable.type targets
      exact declare_follows ⟨targets, drawn⟩ types 0 (congrArg some rfl)
    | _ => cases alike
  | _ =>
    have names := alike.kept Symbol.name fun _ other => other.name_rename
    have kinds := alike.kept Symbol.kind fun _ other => other.kind_rename
    cases symbol' with
    | var target' => cases alike
    | _ =>
      unfold enumerator
      dsimp only
      rw [names, kinds]
      exact .throw _

theorem enumElement_follows : parallel.Follows bound enumElement enumElement parallel.Values := by
  apply Follows.nextThen Read.string_local
  intro name
  apply (table_follows false).bind
  intro _ _ table? table?' tables
  cases table? with
  | none =>
    cases table?' with
    | none => exact .throw _
    | some id' => cases tables.1
  | some id =>
    cases table?' with
    | none => cases tables.1
    | some id' =>
      have same : parallel.first.tables id = parallel.second.tables id' :=
        Option.some.inj tables.1
      -- How many values follow depends on what the new tables own by now.
      apply Follows.afterGet
      intro decoder decoder' _ related
      obtain ⟨alike, drawn⟩ := parallel.owned related (tables.2 id rfl) same
      have declared := Follows.mapM (fun _ _ => enumerator_follows name) drawn alike
      refine declared.bind ?_ decoder decoder' (Nat.le_refl _) related
      intro _ _ declarations declarations' alikeDeclarations
      refine .pure fun _ _ => ?_
      show Element.enum ⟨name, parallel.first.tables id, rename _ declarations, true⟩ =
        .enum ⟨name, parallel.second.tables id', rename _ declarations', true⟩
      rw [same, alikeDeclarations]

theorem functionElement_follows :
    parallel.Follows bound (functionElement parallel.context)
      (functionElement parallel.context') parallel.Values := by
  apply function_follows.bind
  intro _ _ declaration declaration' functions
  apply stmt_follows.present.bind
  intro larger le body body' alikeBodies
  apply Follows.nextThen Read.u8_local
  intro count
  have reference : parallel.Follows larger function function parallel.Values :=
    function_follows.weaken fun _ _ _ _ functions => functions.1
  apply (reference.timesAlike count.toNat).bind
  intro _ above referenced referenced' alikeReferenced
  refine Follows.exchange (Element.defineFunction · declaration true body referenced)
    (Element.defineFunction · declaration' true body' referenced') ?_
  intro decoder decoder' higher related
  have drawn := parallel.drawn_mono (Nat.le_trans le (Nat.le_trans above higher)) functions.2
  have defined := parallel.define related functions.1 drawn
  refine defined.returned fun store store' still => ?_
  refine ⟨?_, by rw [still.1]; exact Nat.le_succ _, still.2⟩
  show Element.function ⟨parallel.first.symbols decoder.store.nextId, rename _ declaration, true,
      rename _ body, rename _ (distinctFunctions referenced)⟩ =
    .function ⟨parallel.second.symbols decoder'.store.nextId, rename _ declaration', true,
      rename _ body', rename _ (distinctFunctions referenced')⟩
  rw [← rename_distinctFunctions parallel.first_injective,
    ← rename_distinctFunctions parallel.second_injective, (parallel.ids_alike related).1,
    functions.1, alikeBodies, alikeReferenced]

theorem interfaceElement_follows :
    parallel.Follows bound interfaceElement interfaceElement parallel.Values := by
  apply targetVariable_follows.bind
  intro _ _ target target' targets
  apply Follows.nextThen Read.string_local
  intro name
  apply Follows.nextThen Read.string_local
  intro instanceName
  apply Follows.nextThen Read.s8_local
  intro arraySize
  refine .pure fun _ _ => ?_
  show Element.interfaceBlock ⟨rename _ target, name, instanceName, arraySize.toInt32, none⟩ =
    .interfaceBlock ⟨rename _ target', name, instanceName, arraySize.toInt32, none⟩
  rw [targets.1]

theorem globalElement_eq (context : Context) :
    globalElement context = do return .global (← globalOf (← stmt context)) := by
  rw [globalElement]
  congr
  funext statement?
  cases statement? with
  | none => rfl
  | some statement => cases statement <;> rfl

theorem globalElement_follows :
    parallel.Follows bound (globalElement parallel.context) (globalElement parallel.context')
      parallel.Values := by
  rw [globalElement_eq, globalElement_eq]
  apply stmt_follows.bind
  intro _ _ statement? statement?' alike
  have declarations : Alike parallel.first parallel.second (globalOf statement?)
      (globalOf statement?') := by
    rw [Alike, ← rename_globalOf, ← rename_globalOf, alike]
  apply (Follows.liftAlike declarations).bind
  intro _ _ declaration declaration' alikeDeclarations
  exact .pure fun _ _ => congrArg Element.global alikeDeclarations

theorem element_follows :
    parallel.Follows bound (element parallel.context) (element parallel.context')
      parallel.Values := by
  apply Follows.nextThen Read.command_local
  intro tag
  cases tag with
  | enumElement => exact enumElement_follows.given?
  | functionElement => exact functionElement_follows.given?
  | interfaceElement => exact interfaceElement_follows.given?
  | globalDeclaration => exact globalElement_follows.given?
  | structElement =>
    apply type_follows.bind
    intro _ _ type type' alike
    exact .pure fun _ _ => congrArg (fun type => some (Element.struct type)) alike
  | elementsEnd => exact .pure fun _ _ => rfl
  | _ => exact .throw _

/-- What goes with an element that is held on to ends with a fault only. -/
theorem holding_follows {step : Decode α} {step' : Decode β} {relation : Nat → α → β → Prop}
    (element element' : Element) (follows : parallel.Follows bound step step' relation) :
    parallel.Follows bound (holding element step) (holding element' step') relation := by
  intro decoder decoder' drawn related
  have answers := follows decoder decoder' drawn related
  unfold holding
  cases ran : step decoder with
  | mk outcome after =>
    rw [ran] at answers
    cases outcome with
    | ok value =>
      obtain ⟨value', after', ran', holds, still, grown⟩ := answers.answered rfl
      rw [ran']
      exact .value holds still grown
    | error fault =>
      refine ⟨fun ran => (by cases ran), fun strict _ _ ran => ?_⟩
      cases ran
      obtain ⟨after', ran'⟩ := answers.faulted strict rfl
      exact ⟨_, by rw [ran']⟩

theorem elements_follows :
    parallel.Follows bound (elements parallel.context) (elements parallel.context')
      parallel.Values := by
  apply Follows.nextThen Read.command_local
  intro tag
  cases tag with
  | elements =>
    apply Follows.nested rfl rfl
    intro depth depth' follows
    apply element_follows.bind
    intro _ le element? element?' alike
    cases element? with
    | none =>
      cases element?' with
      | none => exact .pure fun _ _ => rfl
      | some first' => cases alike
    | some first =>
      cases element?' with
      | none => cases alike
      | some first' =>
        apply (holding_follows first first' (follows.mono le)).bind
        intro _ _ others others' alikeOthers
        exact .pure fun _ _ => List.cons_eq_cons.mpr ⟨Option.some.inj alike, alikeOthers⟩
  | _ => exact .throw _

theorem program_follows :
    parallel.Follows bound (program parallel.context) (program parallel.context')
      parallel.Programs := by
  apply (table_follows true).bind
  intro _ _ table? table?' tables
  apply elements_follows.bind
  intro _ _ elements elements' alike
  refine .pure fun _ _ => ⟨?_, tables.2⟩
  show Program.mk (renameTable _ table?) (rename _ elements) =
    .mk (renameTable _ table?') (rename _ elements')
  rw [tables.1, alike]

end Decode

end Shading
