import Mathlib.Data.List.Nodup
import Shading.Proofs.Decode.Resolution
import Shading.Proofs.Stmt.Scopes

/-!
The scopes of decoded statements and programs. A decoded table is new and lies below the table that
is active, which is that of the nearest block or switch around: these are active while what they hold
is decoded, and the table of a loop is decoded when its body is over. Main statement:
`Decode.scopes_nested`.
-/

namespace Shading

/-- The scopes of a program below a table: its own table, and those in its elements. -/
def Program.scopes (outer : TableId) (program : Program) : List Scope :=
  Scope.below false outer program.table? ++ program.elements.flatMap (Element.scopes outer)

/-! ## Opening tables -/

/-- What a session did to the headers of tables: it opened some scopes, each in a new table of its
own, and changed no header. -/
structure Decoder.Opens (before : Decoder) (scopes : List Scope) (after : Decoder) : Prop where
  active_eq : after.active = before.active
  size_le : before.store.tables.size ≤ after.store.tables.size
  header_eq : ∀ table < before.store.tables.size,
    after.store.header? table = before.store.header? table
  placed : ∀ scope ∈ scopes, before.store.tables.size ≤ scope.table ∧
    scope.table < after.store.tables.size ∧
    after.store.header? scope.table = some (scope.parent?, true)
  distinct : (scopes.map Scope.table).Nodup

namespace Decoder.Opens

variable {before middle after : Decoder} {earlier later scopes : List Scope}

theorem refl (decoder : Decoder) : decoder.Opens [] decoder where
  active_eq := rfl
  size_le := Nat.le_refl _
  header_eq _ _ := rfl
  placed _ absent := by cases absent
  distinct := List.nodup_nil

theorem trans (first : before.Opens earlier middle) (second : middle.Opens later after) :
    before.Opens (earlier ++ later) after where
  active_eq := second.active_eq.trans first.active_eq
  size_le := Nat.le_trans first.size_le second.size_le
  header_eq table old := by
    have stillOld := Nat.lt_of_lt_of_le old first.size_le
    rw [second.header_eq table stillOld, first.header_eq table old]
  placed scope member := by
    rcases List.mem_append.mp member with inEarlier | inLater
    · obtain ⟨new, opened, header⟩ := first.placed scope inEarlier
      have kept := second.header_eq scope.table opened
      exact ⟨new, Nat.lt_of_lt_of_le opened second.size_le, kept.trans header⟩
    · obtain ⟨new, opened, header⟩ := second.placed scope inLater
      exact ⟨Nat.le_trans first.size_le new, opened, header⟩
  distinct := by
    rw [List.map_append, List.nodup_append]
    refine ⟨first.distinct, second.distinct, ?_⟩
    -- The later tables are all newer than the earlier ones.
    intro table inEarlier other inLater same
    obtain ⟨scope, member, rfl⟩ := List.mem_map.mp inEarlier
    obtain ⟨newer, newerMember, rfl⟩ := List.mem_map.mp inLater
    have opened := (first.placed scope member).2.1
    have new := (second.placed newer newerMember).1
    rw [same] at opened
    exact absurd opened (Nat.not_lt.mpr new)

theorem inside {table : TableId} (inner : Opens { before with active := table } scopes after) :
    before.Opens scopes { after with active := before.active } :=
  { inner with active_eq := rfl }

theorem of_store {store : Store} (size_le : before.store.tables.size ≤ store.tables.size)
    (header_eq : ∀ table < before.store.tables.size,
      store.header? table = before.store.header? table) :
    before.Opens [] { before with store } where
  active_eq := rfl
  size_le := size_le
  header_eq := header_eq
  placed _ absent := by cases absent
  distinct := List.nodup_nil

theorem adopt (decoder : Decoder) (symbol : Symbol) :
    decoder.Opens []
      { decoder with store := decoder.store.fresh.2.adopt decoder.active symbol } := by
  refine .of_store (Nat.le_of_eq (Store.size_adopt _ _ symbol).symm) fun table _ => ?_
  exact Store.header?_adopt decoder.store.fresh.2 decoder.active table symbol

end Decoder.Opens

theorem Closing.opens {tag : Command} {id? : Option UInt16} {symbol : Symbol}
    {ready after : Decoder} (closing : Closing tag id? symbol ready after) :
    ready.Opens [] after := by
  cases closing with
  | create kind new vacant => exact { Decoder.Opens.adopt ready symbol with }
  | createMember new => exact .adopt ready symbol
  | refer bound => exact .refl ready
  | find found vacant => exact { Decoder.Opens.refl ready with }

theorem Chronicle.opens {level : Level} {before after : Decoder} {log : List Record}
    (chronicle : Chronicle level before log after) : before.Opens [] after := by
  induction chronicle with
  | nothing level decoder => exact .refl decoder
  | @read level decoder reader moved => exact { Decoder.Opens.refl decoder with }
  | andThen first second firstHypothesis secondHypothesis =>
    exact firstHypothesis.trans secondHypothesis
  | record decoded tagged numbered within closing inductionHypothesis =>
    have ended := inductionHypothesis.trans closing.opens
    exact { ended with }
  | waste decoder => exact .of_store (Nat.le_refl _) fun _ _ => rfl
  | orphan decoder symbol new => exact .adopt decoder symbol
  | openTable decoder parent? =>
    refine .of_store ?_ fun table old => Store.header?_newTable decoder.store table parent? true old
    rw [Store.size_newTable]
    exact Nat.le_succ _
  | bind decoder table symbol =>
    refine .of_store (Nat.le_of_eq (Store.size_bind _ table symbol).symm) fun other _ => ?_
    exact Store.header?_bind decoder.store table other symbol
  | attach decoder initials definitions => exact .of_store (Nat.le_refl _) fun _ _ => rfl
  | inside inner inductionHypothesis => exact inductionHypothesis.inside

namespace Decode

open Stepping

variable {α β : Type} {context : Context}

/-- A step that opens the scopes of what it answers, below the table that is active then. -/
def Nests (step : Decode α) (scopes : TableId → α → List Scope) : Prop :=
  ∀ before value after, step before = (.ok value, after) →
    before.Opens (scopes before.active value) after

theorem Leads.nests {step : Decode α} (chronicled : Leads Chronicles step) :
    Nests step fun _ _ => [] := by
  intro before value after ran
  obtain ⟨log, chronicle⟩ := chronicled before
  rw [ran] at chronicle
  exact chronicle.opens

namespace Nests

variable {step : Decode α} {scopes : TableId → α → List Scope}

/-- The step runs after others that opened scopes. -/
theorem after (nests : Nests step scopes) {before middle after : Decoder} {earlier : List Scope}
    {value : α} (opened : before.Opens earlier middle)
    (ran : step middle = (.ok value, after)) :
    before.Opens (earlier ++ scopes before.active value) after := by
  have further := nests middle value after ran
  rw [opened.active_eq] at further
  exact opened.trans further

theorem times (nests : Nests step scopes) (count : Nat) :
    Nests (Decode.times count step) fun outer values => values.flatMap (scopes outer) := by
  induction count with
  | zero =>
    intro before values after ran
    cases ran
    exact .refl _
  | succ count inductionHypothesis =>
    intro before values after ran
    obtain ⟨first, middle, firstRan, restRan⟩ := exists_of_bind_run ran
    obtain ⟨others, last, timesRan, ended⟩ := exists_of_bind_run restRan
    cases ended
    exact inductionHypothesis.after (nests before first middle firstRan) timesRan

theorem present {what : String} {optional : Decode (Option α)}
    {scopes : TableId → Option α → List Scope} (nests : Nests optional scopes) :
    Nests (Decode.present what optional) fun outer value => scopes outer (some value) := by
  intro before value after ran
  obtain ⟨value?, middle, optionalRan, ended⟩ := exists_of_bind_run ran
  cases value? with
  | none => cases ended
  | some found =>
    cases ended
    exact nests before (some value) after optionalRan

end Nests

/-! ## Tables and statements -/

theorem table_nests (inherit loop : Bool) :
    Nests (table inherit) fun outer table? =>
      table?.toList.map fun table =>
        { table, parent? := if inherit then some outer else none, loop } := by
  intro before table? after ran
  have quiet := (table_chronicled inherit).nests before table? after ran
  cases table? with
  | none => exact quiet
  | some id =>
    obtain ⟨run⟩ := exists_tableRun ran
    have header := run.header_eq
    refine { quiet with placed := ?_, distinct := List.pairwise_singleton _ _ }
    intro scope member
    have inside : id < after.store.tables.size := by
      refine Nat.lt_of_not_le fun outside => ?_
      rw [Store.header?, Array.getElem?_eq_none outside] at header
      cases header
    cases List.mem_singleton.mp member
    exact ⟨Nat.le_of_eq run.id_eq.symm, inside, header⟩

/-- A stretch with a table active, if there is one. What it opens is opened for those around. -/
theorem within_run {table? : Option TableId} {step : Decode α} {before after : Decoder} {value : α}
    (ran : within table? step before = (.ok value, after)) :
    ∃ inner, step { before with active := table?.getD before.active } = (.ok value, inner) ∧
      ∀ scopes, Decoder.Opens { before with active := table?.getD before.active } scopes inner →
        before.Opens scopes after := by
  cases table? with
  | none => exact ⟨after, ran, fun _ opened => opened⟩
  | some id =>
    obtain ⟨inner, innerRan, same⟩ := withActive_run ran
    subst same
    exact ⟨inner, innerRan, fun _ opened => opened.inside⟩

variable {nested : Decode (Option Stmt)}

theorem switchCase_nests (nests : Nests nested Stmt.scopesOfSome) :
    Nests (switchCase context nested) fun outer entry => entry.body.scopes outer := by
  intro before entry after ran
  obtain ⟨value?, middle, valueRan, ran⟩ := exists_of_bind_run ran
  obtain ⟨body, last, bodyRan, ended⟩ := exists_of_bind_run ran
  cases ended
  have opened := expr_chronicled.nests _ _ _ valueRan
  exact nests.present.after opened bodyRan

theorem block_nests (nests : Nests nested Stmt.scopesOfSome) :
    Nests (stmtRecord context nested .blockStmt) Stmt.scopes := by
  intro before statement after ran
  obtain ⟨table?, opened, tableRan, ran⟩ := exists_of_bind_run ran
  obtain ⟨inner, ran, outwards⟩ := within_run ran
  obtain ⟨count, counted, countRan, ran⟩ := exists_of_bind_run ran
  obtain ⟨statements, listed, statementsRan, ran⟩ := exists_of_bind_run ran
  obtain ⟨braces, last, bracesRan, ended⟩ := exists_of_bind_run ran
  cases ended
  have tableOpens := table_nests true false _ _ _ tableRan
  have countOpens := (chronicles.walk.next Read.u8_forward).nests _ _ _ countRan
  have listOpens := (nests.present.times count.toNat).after countOpens statementsRan
  have whole := tableOpens.trans <| outwards _ <|
    (chronicles.walk.next Read.bool_forward).nests.after listOpens bracesRan
  rw [tableOpens.active_eq] at whole
  rw [Stmt.scopes, Stmt.scopesOfAll_eq]
  simpa [Stmt.scopesOfSome, Scope.below] using whole

theorem switch_nests (nests : Nests nested Stmt.scopesOfSome) :
    Nests (stmtRecord context nested .switchStmt) Stmt.scopes := by
  intro before statement after ran
  obtain ⟨isStatic, started, staticRan, ran⟩ := exists_of_bind_run ran
  obtain ⟨table?, opened, tableRan, ran⟩ := exists_of_bind_run ran
  obtain ⟨inner, ran, outwards⟩ := within_run ran
  obtain ⟨value, valued, valueRan, ran⟩ := exists_of_bind_run ran
  obtain ⟨count, counted, countRan, ran⟩ := exists_of_bind_run ran
  obtain ⟨cases, listed, casesRan, ran⟩ := exists_of_bind_run ran
  obtain ⟨made, same⟩ := lift_run ran
  subst same
  obtain ⟨_, _, same⟩ := exists_of_bind_ok made
  cases same
  have staticOpens := (chronicles.walk.next Read.bool_forward).nests _ _ _ staticRan
  have tableOpens := (table_nests true false).after staticOpens tableRan
  have valueOpens := (chronicles.walk.present expr_chronicled).nests _ _ _ valueRan
  have countOpens := (chronicles.walk.next Read.u8_forward).nests.after valueOpens countRan
  have whole := tableOpens.trans <| outwards _ <|
    ((switchCase_nests nests).times count.toNat).after countOpens casesRan
  rw [tableOpens.active_eq] at whole
  rw [Stmt.scopes, Stmt.scopesOfCases_eq]
  simpa [Scope.below] using whole

/-- The builder looks at the test only to check it. -/
theorem forLoop_of_made {initializer : Option Stmt} {test next : Option Expr} {body statement : Stmt}
    {table? : Option TableId}
    (made : Stmt.forLoopOf initializer test next body table? = .ok statement) :
    statement = .forLoop initializer test next body table? := by
  cases test with
  | none =>
    cases made
    rfl
  | some test =>
    obtain ⟨_, _, same⟩ := exists_of_bind_ok made
    cases same
    rfl

theorem for_nests (nests : Nests nested Stmt.scopesOfSome) :
    Nests (stmtRecord context nested .forStmt) Stmt.scopes := by
  intro before statement after ran
  obtain ⟨initializer, started, initializerRan, ran⟩ := exists_of_bind_run ran
  obtain ⟨test, tested, testRan, ran⟩ := exists_of_bind_run ran
  obtain ⟨next, stepped, nextRan, ran⟩ := exists_of_bind_run ran
  obtain ⟨body, looped, bodyRan, ran⟩ := exists_of_bind_run ran
  obtain ⟨table?, opened, tableRan, ran⟩ := exists_of_bind_run ran
  obtain ⟨made, same⟩ := lift_run ran
  subst same
  cases forLoop_of_made made
  have initializerOpens := nests _ _ _ initializerRan
  have testOpens := expr_chronicled.nests.after initializerOpens testRan
  have nextOpens := expr_chronicled.nests.after testOpens nextRan
  have bodyOpens := nests.present.after nextOpens bodyRan
  have whole := (table_nests true true).after bodyOpens tableRan
  rw [Stmt.scopes]
  simpa [Stmt.scopesOfSome, Scope.below] using whole

theorem do_nests (nests : Nests nested Stmt.scopesOfSome) :
    Nests (stmtRecord context nested .doStmt) Stmt.scopes := by
  intro before statement after ran
  obtain ⟨body, looped, bodyRan, ran⟩ := exists_of_bind_run ran
  obtain ⟨test, tested, testRan, ran⟩ := exists_of_bind_run ran
  obtain ⟨made, same⟩ := lift_run ran
  subst same
  obtain ⟨_, _, same⟩ := exists_of_bind_ok made
  cases same
  have bodyOpens := nests.present _ _ _ bodyRan
  have whole := (chronicles.walk.present expr_chronicled).nests.after bodyOpens testRan
  rw [Stmt.scopes]
  simpa [Stmt.scopesOfSome] using whole

theorem if_nests (nests : Nests nested Stmt.scopesOfSome) :
    Nests (stmtRecord context nested .ifStmt) Stmt.scopes := by
  intro before statement after ran
  obtain ⟨isStatic, started, staticRan, ran⟩ := exists_of_bind_run ran
  obtain ⟨test, tested, testRan, ran⟩ := exists_of_bind_run ran
  obtain ⟨whenTrue, chosen, trueRan, ran⟩ := exists_of_bind_run ran
  obtain ⟨whenFalse, other, falseRan, ran⟩ := exists_of_bind_run ran
  obtain ⟨made, same⟩ := lift_run ran
  subst same
  obtain ⟨_, _, same⟩ := exists_of_bind_ok made
  cases same
  have staticOpens := (chronicles.walk.next Read.bool_forward).nests _ _ _ staticRan
  have testOpens := (chronicles.walk.present expr_chronicled).nests.after staticOpens testRan
  have trueOpens := nests.present.after testOpens trueRan
  have whole := nests.after trueOpens falseRan
  rw [Stmt.scopes]
  simpa [Stmt.scopesOfSome] using whole

/-- A record that makes a leaf of what it decoded. -/
theorem leaf_nests {first : Decode α} (chronicled : Leads Chronicles first) {make : α → Stmt}
    (leaf : ∀ value outer, (make value).scopes outer = []) :
    Nests (do return make (← first)) Stmt.scopes := by
  intro before statement after ran
  obtain ⟨value, middle, firstRan, ended⟩ := exists_of_bind_run ran
  cases ended
  have quiet := chronicled.nests _ _ _ firstRan
  rw [leaf]
  exact quiet

theorem stmtRecord_nests (nests : Nests nested Stmt.scopesOfSome) (tag : Command) :
    Nests (stmtRecord context nested tag) Stmt.scopes := by
  have alone (statement : Stmt) (leaf : ∀ outer, statement.scopes outer = []) :
      Nests (pure statement) Stmt.scopes :=
    leaf_nests (chronicles.walk.pure ()) fun _ => leaf
  cases tag with
  | blockStmt => exact block_nests nests
  | breakStmt => exact alone .breakLoop fun _ => rfl
  | continueStmt => exact alone .continueLoop fun _ => rfl
  | discardStmt => exact alone .discard fun _ => rfl
  | doStmt => exact do_nests nests
  | exprStmt => exact leaf_nests (chronicles.walk.present expr_chronicled) fun _ _ => rfl
  | forStmt => exact for_nests nests
  | ifStmt => exact if_nests nests
  | inlineMarker => exact leaf_nests function_chronicled fun _ _ => rfl
  | returnStmt => exact leaf_nests expr_chronicled fun _ _ => rfl
  | switchStmt => exact switch_nests nests
  | declaration => exact leaf_nests declaration_chronicled fun _ _ => rfl
  | _ => exact fun _ _ _ ran => by cases ran

theorem stmtWithin_nests (bound : Nat) :
    Nests (stmtWithin context bound) Stmt.scopesOfSome := by
  induction bound with
  | zero => exact fun _ _ _ ran => by cases ran
  | succ bound inductionHypothesis =>
    intro before statement? after ran
    obtain ⟨tag, tagged, tagRan, ran⟩ := exists_of_bind_run ran
    have tagOpens := (chronicles.walk.next Read.command_forward).nests _ _ _ tagRan
    split at ran
    · cases ran
      exact tagOpens
    · obtain ⟨statement, last, recordRan, ended⟩ := exists_of_bind_run ran
      cases ended
      exact (stmtRecord_nests inductionHypothesis tag).after tagOpens recordRan

theorem stmt_nests : Nests (stmt context) Stmt.scopesOfSome := by
  intro before statement? after ran
  obtain ⟨bound, middle, nestingRan, ran⟩ := exists_of_bind_run ran
  cases nestingRan
  exact stmtWithin_nests _ _ _ _ ran

/-! ## Elements and programs -/

/-- The scopes of an element that may be absent. -/
def elementScopes (outer : TableId) (element? : Option Element) : List Scope :=
  element?.toList.flatMap (Element.scopes outer)

theorem enumElement_nests : Nests enumElement Element.scopes := by
  intro before element after ran
  obtain ⟨name, named, nameRan, ran⟩ := exists_of_bind_run ran
  obtain ⟨table?, opened, tableRan, ran⟩ := exists_of_bind_run ran
  cases table? with
  | none => cases ran
  | some id =>
    obtain ⟨decoder, middle, getRan, ran⟩ := exists_of_bind_run ran
    cases getRan
    obtain ⟨declarations, last, mapRan, ended⟩ := exists_of_bind_run ran
    cases ended
    have nameOpens := (chronicles.walk.next Read.string_forward).nests _ _ _ nameRan
    have tableOpens := (table_nests false false).after nameOpens tableRan
    have enumerators := chronicles.walk.mapM (opened.store.owned id) fun symbol _ =>
      enumerator_chronicled name symbol
    have whole := enumerators.nests.after tableOpens mapRan
    simpa [Element.scopes] using whole

theorem functionElement_nests : Nests (functionElement context) Element.scopes := by
  intro before element after ran
  obtain ⟨declaration, declared, declarationRan, ran⟩ := exists_of_bind_run ran
  obtain ⟨body, finished, bodyRan, ran⟩ := exists_of_bind_run ran
  have declarationOpens := function_chronicled.nests _ _ _ declarationRan
  have bodyOpens := stmt_nests.present.after declarationOpens bodyRan
  obtain ⟨count, counted, countRan, ran⟩ := exists_of_bind_run ran
  obtain ⟨referenced, listed, referencedRan, ran⟩ := exists_of_bind_run ran
  have countOpens := (chronicles.walk.next Read.u8_forward).nests.after bodyOpens countRan
  have listOpens :=
    (chronicles.walk.times function_chronicled count.toNat).nests.after countOpens referencedRan
  have whole := (chronicles.defineFunction declaration body referenced).nests.after listOpens ran
  obtain ⟨_, made, _⟩ := exchange_run (Element.defineFunction · declaration true body referenced) ran
  obtain ⟨defined, _, same⟩ := exists_of_bind_ok made
  cases same
  simpa [Element.scopes, Stmt.scopesOfSome] using whole

theorem interfaceElement_nests : Nests interfaceElement Element.scopes := by
  intro before element after ran
  have quiet := interfaceElement_chronicled.nests _ _ _ ran
  obtain ⟨target, middle, targetRan, ran⟩ := exists_of_bind_run ran
  obtain ⟨name, middle, nameRan, ran⟩ := exists_of_bind_run ran
  obtain ⟨instanceName, middle, instanceRan, ran⟩ := exists_of_bind_run ran
  obtain ⟨arraySize, middle, sizeRan, ended⟩ := exists_of_bind_run ran
  cases ended
  exact quiet

theorem globalElement_nests : Nests (globalElement context) Element.scopes := by
  intro before element after ran
  have quiet := globalElement_chronicled.nests _ _ _ ran
  obtain ⟨statement?, middle, statementRan, ran⟩ := exists_of_bind_run ran
  split at ran
  · cases ran
    exact quiet
  · cases ran
  · cases ran

theorem element_nests : Nests (element context) elementScopes := by
  intro before element? after ran
  obtain ⟨tag, tagged, tagRan, ran⟩ := exists_of_bind_run ran
  have tagOpens := (chronicles.walk.next Read.command_forward).nests _ _ _ tagRan
  have found {step : Decode Element} (nests : Nests step Element.scopes)
      (ran : (do return some (← step)) tagged = (.ok element?, after)) :
      before.Opens (elementScopes before.active element?) after := by
    obtain ⟨element, last, stepRan, ended⟩ := exists_of_bind_run ran
    cases ended
    have whole := nests.after tagOpens stepRan
    simpa [elementScopes] using whole
  split at ran
  · exact found enumElement_nests ran
  · exact found functionElement_nests ran
  · exact found interfaceElement_nests ran
  · exact found globalElement_nests ran
  · obtain ⟨type, last, typeRan, ended⟩ := exists_of_bind_run ran
    cases ended
    exact type_chronicled.nests.after tagOpens typeRan
  · cases ran
    exact tagOpens
  · cases ran

theorem elementsWithin_nests (bound : Nat) :
    Nests (elementsWithin context bound)
      fun outer elements => elements.flatMap (Element.scopes outer) := by
  induction bound with
  | zero => exact fun _ _ _ ran => by cases ran
  | succ bound inductionHypothesis =>
    intro before elements after ran
    obtain ⟨element?, middle, elementRan, ran⟩ := exists_of_bind_run ran
    have firstOpens := element_nests _ _ _ elementRan
    cases element? with
    | none =>
      cases ran
      exact firstOpens
    | some first =>
      obtain ⟨others, last, othersRan, ended⟩ := exists_of_bind_run ran
      cases ended
      have whole := inductionHypothesis.after firstOpens (holding_run othersRan)
      simpa [elementScopes] using whole

theorem elements_nests :
    Nests (elements context) fun outer elements => elements.flatMap (Element.scopes outer) := by
  intro before elements after ran
  obtain ⟨tag, tagged, tagRan, ran⟩ := exists_of_bind_run ran
  have tagOpens := (chronicles.walk.next Read.command_forward).nests _ _ _ tagRan
  split at ran
  · obtain ⟨bound, middle, nestingRan, ran⟩ := exists_of_bind_run ran
    cases nestingRan
    exact (elementsWithin_nests _).after tagOpens ran
  · cases ran

theorem program_nests : Nests (program context) Program.scopes := by
  intro before program after ran
  obtain ⟨table?, opened, tableRan, ran⟩ := exists_of_bind_run ran
  obtain ⟨elements, last, elementsRan, ended⟩ := exists_of_bind_run ran
  cases ended
  have tableOpens := table_nests true false _ _ _ tableRan
  exact elements_nests.after tableOpens elementsRan

/-- The scopes of what is decoded nest. In a statement, the table of a block, switch or loop has the
table of the nearest block or switch around it as its parent, or else the one that was active; a
loop is the parent of none. In a program, the table of the program and the outer tables of function
bodies lie below the starting table, and the table of an enum has no parent. All of these tables are
builtin, and no two nodes share one. -/
theorem scopes_nested (context : Context) :
    (∀ before statement after, stmt context before = (.ok (some statement), after) →
      (∀ scope ∈ statement.scopes before.active,
        after.store.header? scope.table = some (scope.parent?, true)) ∧
      ((statement.scopes before.active).map Scope.table).Nodup ∧
      (before.active < before.store.tables.size →
        ∀ loop ∈ statement.scopes before.active, loop.loop = true →
          ∀ scope ∈ statement.scopes before.active, scope.parent? ≠ some loop.table)) ∧
    ∀ store builtin bytes decoder result after,
      Decoder.start store builtin bytes = .ok (.ok decoder) →
      program context decoder = (.ok result, after) →
      (∀ id ∈ result.table?, after.store.header? id = some (some builtin, true)) ∧
      (∀ definition, .function definition ∈ result.elements →
        ∀ scope ∈ definition.body.scopes builtin,
          after.store.header? scope.table = some (scope.parent?, true)) ∧
      (∀ definition, .enum definition ∈ result.elements →
        after.store.header? definition.table = some (none, true)) ∧
      ((result.scopes builtin).map Scope.table).Nodup := by
  constructor
  · intro before statement after ran
    have opens : before.Opens (statement.scopes before.active) after := stmt_nests _ _ _ ran
    refine ⟨fun scope member => (opens.placed scope member).2.2, opens.distinct, ?_⟩
    -- The table of a loop is new, so it is not the one around, and it is no other node's table.
    intro inside loop loopMember isLoop scope member child
    have new := (opens.placed loop loopMember).1
    rcases statement.scopes_held before.active scope member with around | ⟨holder, held, noLoop, same⟩
    · have shared : before.active = loop.table := Option.some.inj (around.symm.trans child)
      rw [shared] at inside
      exact absurd inside (Nat.not_lt.mpr new)
    · have shared : holder.table = loop.table := Option.some.inj (same.symm.trans child)
      have one := List.inj_on_of_nodup_map opens.distinct held loopMember shared
      rw [one, isLoop] at noLoop
      cases noLoop
  · intro store builtin bytes decoder result after started ran
    have isActive : decoder.active = builtin := by
      obtain ⟨_, reader, _, same⟩ := Decoder.start_cases started
      rw [same]
    have opens := program_nests _ _ _ ran
    rw [isActive] at opens
    have inElement {element : Element} (member : element ∈ result.elements) {scope : Scope}
        (inside : scope ∈ element.scopes builtin) :
        after.store.header? scope.table = some (scope.parent?, true) := by
      have inAll := List.mem_flatMap.mpr ⟨element, member, inside⟩
      exact (opens.placed scope (List.mem_append_right _ inAll)).2.2
    refine ⟨?_, ?_, ?_, opens.distinct⟩
    · intro id present
      have own : { table := id, parent? := some builtin, loop := false } ∈ result.scopes builtin :=
        List.mem_append_left _ (List.mem_map.mpr ⟨id, Option.mem_toList.mpr present, rfl⟩)
      exact (opens.placed _ own).2.2
    · intro definition member scope inside
      exact inElement member inside
    · intro definition member
      have own := List.mem_singleton_self (Scope.mk definition.table none false)
      exact inElement member own

/-- A blob with the elements of a program: a function of one block, which holds a loop. Both carry a
table, and the table of the program holds the function. -/
def loopBlob : Array UInt8 :=
  #[8, 0, 1, 0, 1, 69, 1, 102, 16, 1, 0, 8, 0, 0, 3, 6, 0, 0, 7, 1, 0, 4, 0, 0, 0,
    17, 19, 11, 0, 0, 24, 16, 0, 0, 0, 0, 1, 30, 57, 57, 57, 27, 16, 0, 0, 0, 0, 1, 0, 23]

def loopSession (offset : Nat) : Decoder :=
  { reader := ⟨loopBlob, offset⟩, store := Decoder.emptyStore, active := 0 }

/-- The statement alone and the whole program: the table of the loop lies below that of the block. -/
theorem loop_scopes_nested :
    (∃ statement after, stmt {} (loopSession 30) = (.ok (some statement), after) ∧
      statement.scopes 0 = [⟨1, some 0, false⟩, ⟨2, some 1, true⟩] ∧
      after.store.header? 2 = some (some 1, true)) ∧
    ∃ result after, program {} (loopSession 8) = (.ok result, after) ∧
      result.table? = some 1 ∧ after.store.header? 1 = some (some 0, true) := by
  have laws := scopes_nested {}
  constructor
  · have found : (stmt {} (loopSession 30)).1.toOption.join.map (Stmt.scopes 0) =
        some [⟨1, some 0, false⟩, ⟨2, some 1, true⟩] := by decide +kernel
    cases ran : stmt {} (loopSession 30) with
    | mk outcome after =>
      rw [ran] at found
      match outcome, found with
      | .ok (some statement), found =>
        have scopes : statement.scopes 0 = [⟨1, some 0, false⟩, ⟨2, some 1, true⟩] :=
          Option.some.inj found
        have headers := (laws.1 _ _ _ ran).1
        refine ⟨statement, after, rfl, scopes, headers ⟨2, some 1, true⟩ ?_⟩
        show _ ∈ statement.scopes 0
        rw [scopes]
        decide
  · have started : Decoder.start Decoder.emptyStore 0 loopBlob = .ok (.ok (loopSession 8)) := rfl
    have found : (program {} (loopSession 8)).1.toOption.map Program.table? = some (some 1) := by
      decide +kernel
    cases ran : program {} (loopSession 8) with
    | mk outcome after =>
      rw [ran] at found
      match outcome, found with
      | .ok result, found =>
        have own : result.table? = some 1 := Option.some.inj found
        exact ⟨result, after, rfl, own, (laws.2 _ _ _ _ _ _ started ran).1 1 own⟩

end Decode

end Shading
