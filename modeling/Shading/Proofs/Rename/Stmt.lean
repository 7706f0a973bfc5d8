import Shading.Decode.Element
import Shading.Proofs.Rename.Expr

/-!
New numbers in statements, program elements and whole programs. The listing of a program shows no
number, and so it stays the same.
-/

namespace Shading

open Renamable (rename rename_same)

variable {κ : Renaming} {α : Type}

instance : Renamable Declaration where
  rename κ declaration :=
    { declaration with
      target := rename κ declaration.target
      baseType := rename κ declaration.baseType
      value? := rename κ declaration.value? }
  rename_same declaration := by rw [rename_same, rename_same, rename_same]

instance [Renamable α] : Renamable (CaseOf α) where
  rename κ entry := { value? := rename κ entry.value?, body := rename κ entry.body }
  rename_same entry := by rw [rename_same, rename_same]

/-- The table of a scope under its new number. -/
def renameTable (κ : Renaming) (table? : Option TableId) : Option TableId :=
  table?.map κ.tables

theorem renameTable_same (table? : Option TableId) : renameTable .same table? = table? := by
  exact congrFun Option.map_id table?

namespace Stmt

mutual

def renamed (κ : Renaming) : Stmt → Stmt
  | block statements table? braces =>
    block (renamedAll κ statements) (renameTable κ table?) braces
  | breakLoop => breakLoop
  | continueLoop => continueLoop
  | discard => discard
  | doLoop body test => doLoop (body.renamed κ) (rename κ test)
  | evaluate value => evaluate (rename κ value)
  | forLoop initializer test next body table? =>
    forLoop (renamedSome κ initializer) (rename κ test) (rename κ next) (body.renamed κ)
      (renameTable κ table?)
  | ifElse isStatic test whenTrue whenFalse =>
    ifElse isStatic (rename κ test) (whenTrue.renamed κ) (renamedSome κ whenFalse)
  | inlined function => inlined (rename κ function)
  | nothing => nothing
  | returnValue value => returnValue (rename κ value)
  | switch isStatic value cases table? =>
    switch isStatic (rename κ value) (renamedCases κ cases) (renameTable κ table?)
  | declare declaration => declare (rename κ declaration)

def renamedSome (κ : Renaming) : Option Stmt → Option Stmt
  | none => none
  | some statement => some (statement.renamed κ)

def renamedAll (κ : Renaming) : List Stmt → List Stmt
  | [] => []
  | statement :: rest => statement.renamed κ :: renamedAll κ rest

def renamedCases (κ : Renaming) : List (CaseOf Stmt) → List (CaseOf Stmt)
  | [] => []
  | ⟨value?, body⟩ :: rest => ⟨rename κ value?, body.renamed κ⟩ :: renamedCases κ rest

end

mutual

theorem renamed_same (statement : Stmt) : statement.renamed .same = statement := by
  cases statement with
  | block statements table? braces =>
    rw [renamed, renamedAll_same statements, renameTable_same]
  | doLoop body test => rw [renamed, renamed_same body, rename_same]
  | evaluate value => rw [renamed, rename_same]
  | forLoop initializer test next body table? =>
    rw [renamed, renamedSome_same initializer, rename_same, rename_same, renamed_same body,
      renameTable_same]
  | ifElse isStatic test whenTrue whenFalse =>
    rw [renamed, rename_same, renamed_same whenTrue, renamedSome_same whenFalse]
  | inlined function => rw [renamed, rename_same]
  | returnValue value => rw [renamed, rename_same]
  | switch isStatic value cases table? =>
    rw [renamed, rename_same, renamedCases_same cases, renameTable_same]
  | declare declaration => rw [renamed, rename_same]
  | _ => rfl

theorem renamedSome_same (statement? : Option Stmt) :
    renamedSome .same statement? = statement? := by
  cases statement? with
  | none => rfl
  | some statement => rw [renamedSome, renamed_same statement]

theorem renamedAll_same (statements : List Stmt) : renamedAll .same statements = statements := by
  cases statements with
  | nil => rfl
  | cons statement rest =>
    rw [renamedAll, renamed_same statement, renamedAll_same rest]

theorem renamedCases_same (entries : List (CaseOf Stmt)) :
    renamedCases .same entries = entries := by
  cases entries with
  | nil => rfl
  | cons entry rest =>
    obtain ⟨value?, body⟩ := entry
    rw [renamedCases, rename_same, renamed_same body, renamedCases_same rest]

end

end Stmt

instance : Renamable Stmt := ⟨Stmt.renamed, Stmt.renamed_same⟩

instance : Renamable EnumDefinition where
  rename κ definition :=
    { definition with
      table := κ.tables definition.table
      declarations := rename κ definition.declarations }
  rename_same definition := by
    rw [rename_same]
    rfl

instance : Renamable FunctionDefinition where
  rename κ definition :=
    { definition with
      id := κ.symbols definition.id
      declaration := rename κ definition.declaration
      body := rename κ definition.body
      referenced := rename κ definition.referenced }
  rename_same definition := by
    rw [rename_same, rename_same, rename_same]
    rfl

instance : Renamable InterfaceBlock where
  rename κ block :=
    { block with target := rename κ block.target, table? := renameTable κ block.table? }
  rename_same block := by rw [rename_same, renameTable_same]

def Element.renamed (κ : Renaming) : Element → Element
  | enum definition => enum (rename κ definition)
  | function definition => function (rename κ definition)
  | interfaceBlock block => interfaceBlock (rename κ block)
  | global declaration => global (rename κ declaration)
  | struct type => struct (rename κ type)

theorem Element.renamed_same (element : Element) : element.renamed .same = element := by
  cases element <;> rw [renamed, rename_same]

instance : Renamable Element := ⟨Element.renamed, Element.renamed_same⟩

instance : Renamable Program where
  rename κ program :=
    { table? := renameTable κ program.table?, elements := rename κ program.elements }
  rename_same program := by rw [renameTable_same, rename_same]

/-! ## Statements -/

namespace Stmt

theorem renamedSome_eq (statement? : Option Stmt) :
    renamedSome κ statement? = rename κ statement? := by
  cases statement? <;> rfl

theorem renamedAll_eq (statements : List Stmt) : renamedAll κ statements = rename κ statements := by
  induction statements with
  | nil => rfl
  | cons statement rest inductionHypothesis => rw [renamedAll, inductionHypothesis]; rfl

theorem renamedCases_eq (cases : List SwitchCase) : renamedCases κ cases = rename κ cases := by
  induction cases with
  | nil => rfl
  | cons entry rest inductionHypothesis => rw [renamedCases, inductionHypothesis]; rfl

theorem rename_block (statements : List Stmt) (table? : Option TableId) (braces : Bool) :
    rename κ (block statements table? braces) =
      block (rename κ statements) (renameTable κ table?) braces := by
  show block (renamedAll κ statements) _ _ = _
  rw [renamedAll_eq]

theorem ensureTest_rename (context : String) (test : Expr) :
    ensureTest context (rename κ test) = ensureTest context test := by
  rw [ensureTest, Expr.type_rename, Ty.isBoolean_rename, Ty.name_rename, ensureTest]

theorem rename_doLoopOf (body : Stmt) (test : Expr) :
    doLoopOf (rename κ body) (rename κ test) = rename κ (doLoopOf body test) := by
  rw [doLoopOf, ensureTest_rename, doLoopOf]
  cases ensureTest "do" test <;> rfl

theorem rename_forLoopOf (initializer : Option Stmt) (test next : Option Expr) (body : Stmt)
    (table? : Option TableId) :
    forLoopOf (rename κ initializer) (rename κ test) (rename κ next) (rename κ body)
        (renameTable κ table?) =
      rename κ (forLoopOf initializer test next body table?) := by
  have loop : rename κ (forLoop initializer test next body table?) =
      forLoop (rename κ initializer) (rename κ test) (rename κ next) (rename κ body)
        (renameTable κ table?) := by
    show forLoop (renamedSome κ initializer) _ _ _ _ = _
    rw [renamedSome_eq]
    rfl
  cases test with
  | none => exact congrArg Except.ok loop.symm
  | some value =>
    simp only [forLoopOf, rename_some, ensureTest_rename]
    cases ensureTest "for" value with
    | error fault => rfl
    | ok _ => exact congrArg Except.ok loop.symm

theorem rename_ifElseOf (isStatic : Bool) (test : Expr) (whenTrue : Stmt)
    (whenFalse : Option Stmt) :
    ifElseOf isStatic (rename κ test) (rename κ whenTrue) (rename κ whenFalse) =
      rename κ (ifElseOf isStatic test whenTrue whenFalse) := by
  have choice : rename κ (ifElse isStatic test whenTrue whenFalse) =
      ifElse isStatic (rename κ test) (rename κ whenTrue) (rename κ whenFalse) := by
    show ifElse _ _ _ (renamedSome κ whenFalse) = _
    rw [renamedSome_eq]
    rfl
  rw [ifElseOf, ensureTest_rename, ifElseOf]
  cases ensureTest "if" test with
  | error fault => rfl
  | ok _ => exact congrArg Except.ok choice.symm

theorem rename_switchOf (isStatic : Bool) (value : Expr) (cases : List SwitchCase)
    (table? : Option TableId) :
    switchOf isStatic (rename κ value) (rename κ cases) (renameTable κ table?) =
      rename κ (switchOf isStatic value cases table?) := by
  have choice : rename κ (switch isStatic value cases table?) =
      switch isStatic (rename κ value) (rename κ cases) (renameTable κ table?) := by
    show switch _ _ (renamedCases κ cases) _ = _
    rw [renamedCases_eq]
  rw [switchOf, switchOf, rename_ensure_bind, Expr.type_rename, Ty.isInteger_rename,
    Ty.isEnum_rename, Ty.name_rename, rename_pure, choice]
  rfl

end Stmt

/-! ## Text -/

theorem Declaration.text_rename (declaration : Declaration) :
    (rename κ declaration).text = declaration.text := by
  have base : (rename κ declaration).baseType.displayName = declaration.baseType.displayName :=
    Ty.displayName_rename declaration.baseType
  obtain ⟨target, baseType, arraySize, value?⟩ := declaration
  rw [text, base]
  cases value? with
  | none => rfl
  | some value =>
    show _ ++ s!" = {(rename κ value).text}" ++ ";" = _
    rw [Expr.text_rename]
    rfl

namespace Stmt

theorem spacedValue_rename (value? : Option Expr) :
    spacedValue (rename κ value?) = spacedValue value? := by
  cases value? with
  | none => rfl
  | some value => rw [rename_some, spacedValue, Expr.text_rename, spacedValue]

theorem caseHead_rename (value? : Option Expr) : caseHead (rename κ value?) = caseHead value? := by
  cases value? with
  | none => rfl
  | some value => rw [rename_some, caseHead, Expr.text_rename, caseHead]

mutual

theorem text_renamed (statement : Stmt) : (statement.renamed κ).text = statement.text := by
  cases statement with
  | block statements table? braces => simp only [renamed, text, textLines_renamed statements]
  | doLoop body test => simp only [renamed, text, text_renamed body, Expr.text_rename]
  | evaluate value => simp only [renamed, text, Expr.text_rename]
  | forLoop initializer test next body table? =>
    cases initializer with
    | none => simp only [renamed, renamedSome, text, spacedValue_rename, text_renamed body]
    | some first =>
      simp only [renamed, renamedSome, text, spacedValue_rename, text_renamed body,
        text_renamed first]
  | ifElse isStatic test whenTrue whenFalse =>
    cases whenFalse with
    | none => simp only [renamed, renamedSome, text, Expr.text_rename, text_renamed whenTrue]
    | some otherwise =>
      simp only [renamed, renamedSome, text, Expr.text_rename, text_renamed whenTrue,
        text_renamed otherwise]
  | returnValue value => simp only [renamed, text, spacedValue_rename]
  | switch isStatic value cases table? =>
    simp only [renamed, text, Expr.text_rename, caseLines_renamed cases]
  | declare declaration => simp only [renamed, text, Declaration.text_rename]
  | _ => rfl

theorem textLines_renamed (statements : List Stmt) :
    textLines (renamedAll κ statements) = textLines statements := by
  cases statements with
  | nil => rfl
  | cons statement rest =>
    simp only [renamedAll, textLines, text_renamed statement, textLines_renamed rest]

theorem caseLines_renamed (entries : List (CaseOf Stmt)) :
    caseLines (renamedCases κ entries) = caseLines entries := by
  cases entries with
  | nil => rfl
  | cons entry rest =>
    obtain ⟨value?, body⟩ := entry
    simp only [renamedCases, caseLines, caseHead_rename, text_renamed body,
      caseLines_renamed rest]

end

theorem text_rename (statement : Stmt) : (rename κ statement).text = statement.text := by
  exact text_renamed statement

end Stmt

/-! ## Elements -/

/-- Functions that differ stay different under new numbers, and the same ones are left out. -/
theorem rename_distinctFunctions (injective : Function.Injective κ.symbols)
    (functions : List Function) :
    distinctFunctions (rename κ functions) = rename κ (distinctFunctions functions) := by
  have step (seen : List Function) (function : Function) :
      (if (rename κ seen).any (·.id == (rename κ function).id) then rename κ seen
        else rename κ seen ++ [rename κ function]) =
      rename κ (if seen.any (·.id == function.id) then seen else seen ++ [function]) := by
    have known : (rename κ seen).any (·.id == (rename κ function).id) =
        seen.any (·.id == function.id) := by
      rw [rename_list, List.any_map]
      congr 1
      funext other
      exact decide_eq_decide.mpr injective.eq_iff
    rw [known]
    split
    · rfl
    · rw [rename_append, rename_cons, rename_nil]
  have folded (seen : List Function) :
      (rename κ functions).foldl (fun seen function =>
          if seen.any (·.id == function.id) then seen else seen ++ [function]) (rename κ seen) =
        rename κ (functions.foldl (fun seen function =>
          if seen.any (·.id == function.id) then seen else seen ++ [function]) seen) := by
    induction functions generalizing seen with
    | nil => rfl
    | cons function rest inductionHypothesis =>
      rw [rename_cons, List.foldl_cons, List.foldl_cons, step, inductionHypothesis]
  exact folded []

/-- The declaration that a statement outside of functions has to be. -/
def globalOf : Option Stmt → Except Fault Declaration
  | some (.declare declaration) => .ok declaration
  | some other => .error (.globalHolds other.text)
  | none => .error .globalEmpty

theorem rename_globalOf (statement? : Option Stmt) :
    globalOf (rename κ statement?) = rename κ (globalOf statement?) := by
  cases statement? with
  | none => rfl
  | some statement =>
    have same := statement.text_rename (κ := κ)
    cases statement with
    | declare declaration => rfl
    | _ => exact congrArg (fun text => Except.error (Fault.globalHolds text)) same

theorem EnumDefinition.values_rename (definition : EnumDefinition) :
    (rename κ definition).values = definition.values := by
  show (rename κ definition.declarations).filterMap _ = _
  rw [rename_list, List.filterMap_map]
  congr 1
  funext declaration
  obtain ⟨target, baseType, arraySize, value?⟩ := declaration
  cases value? with
  | none => rfl
  | some value =>
    show ((rename κ value).intLiteral?).map _ = _
    rw [Expr.intLiteral?_rename]
    rfl

theorem Ty.map_members_rename (type : Ty) (line : Member → String)
    (same : ∀ member, line (rename κ member) = line member) :
    (rename κ type).members.map line = type.members.map line := by
  rw [members_rename, rename_list, List.map_map]
  exact List.map_congr_left fun member _ => same member

theorem Element.text_rename (element : Element) : (rename κ element).text = element.text := by
  have shown (member : Member) : (rename κ member).type.displayName = member.type.displayName :=
    Ty.displayName_rename member.type
  cases element with
  | enum definition =>
    show s!"enum class {definition.name} \x7b\n" ++
      String.join ((rename κ definition).values.map _) ++ _ = _
    rw [definition.values_rename]
    rfl
  | function definition =>
    show s!"{(rename κ definition.declaration).text} {(rename κ definition.body).text}" = _
    rw [definition.declaration.text_rename, definition.body.text_rename]
    rfl
  | interfaceBlock block =>
    have lines := Ty.map_members_rename (κ := κ) block.target.type.component
      (fun member => s!"    {member.type.displayName} {member.name};\n") fun member => by
        rw [shown member]
        rfl
    rw [← Ty.component_rename] at lines
    show block.target.modifiers.lead ++ s!"{block.name} \x7b\n" ++
      String.join ((rename κ block.target.type).component.members.map _) ++ _ ++ _ ++ _ = _
    rw [lines]
    rfl
  | global declaration => exact declaration.text_rename
  | struct type =>
    have lines := Ty.map_members_rename (κ := κ) type (fun member =>
      "    " ++ member.modifiers.lead ++ s!"{member.type.displayName} {member.name};\n")
      fun member => by
        rw [shown member]
        rfl
    show s!"struct {(rename κ type).name} \x7b\n" ++
      String.join ((rename κ type).members.map _) ++ _ = _
    rw [lines, Ty.name_rename]
    rfl

/-! ## Listings -/

theorem map_text_eq {κ κ' : Renaming} [Renamable α] (text : α → String)
    (kept : ∀ κ value, text (rename κ value) = text value) {values values' : List α}
    (alike : Alike κ κ' values values') : values'.map text = values.map text := by
  have texts (κ : Renaming) (values : List α) : (rename κ values).map text = values.map text := by
    rw [rename_list, List.map_map]
    exact List.map_congr_left fun value _ => kept κ value
  rw [← texts κ', ← alike, texts κ]

/-- The lines that a listing starts with. -/
def symbolLine (symbol : Symbol) : String := s!"{symbol.kind}: {symbol.text}\n"

theorem symbolLine_rename (κ : Renaming) (symbol : Symbol) :
    symbolLine (rename κ symbol) = symbolLine symbol := by
  rw [symbolLine, Symbol.kind_rename, Symbol.text_rename, symbolLine]

/-- A listing made from its parts. -/
def listingOf (symbolLines elementLines : List String) : String :=
  s!"// {symbolLines.length} symbols\n" ++ String.join symbolLines
    ++ s!"// {elementLines.length} elements\n" ++ String.join elementLines

theorem Program.listing_eq_listingOf (program : Program) (store : Store) :
    program.listing store =
      listingOf (((program.table?.map store.owned).getD []).map symbolLine)
        (program.elements.map fun element => element.text ++ "\n") := by
  rw [listingOf, List.length_map, List.length_map]
  rfl

/-- Two stores list a program alike if the tables that hold its symbols own alike ones. -/
theorem Program.listing_eq {κ κ' : Renaming} {program program' : Program} {store store' : Store}
    (programs : Alike κ κ' program program')
    (owned : ∀ id ∈ program.table?, ∀ id' ∈ program'.table?,
      Alike κ κ' (store.owned id) (store'.owned id')) :
    program'.listing store' = program.listing store := by
  obtain ⟨table?, elements⟩ := program
  obtain ⟨table?', elements'⟩ := program'
  obtain ⟨tables, alikeElements⟩ := Program.mk.inj programs
  have symbols : Alike κ κ' ((table?.map store.owned).getD [])
      ((table?'.map store'.owned).getD []) := by
    cases table? with
    | none =>
      cases table?' with
      | none => rfl
      | some id' => cases tables
    | some id =>
      cases table?' with
      | none => cases tables
      | some id' => exact owned id rfl id' rfl
  have symbolLines := map_text_eq symbolLine symbolLine_rename symbols
  have elementLines := map_text_eq (fun element : Element => element.text ++ "\n")
    (fun κ element => by rw [element.text_rename]) alikeElements
  rw [listing_eq_listingOf, listing_eq_listingOf, symbolLines, elementLines]

end Shading
