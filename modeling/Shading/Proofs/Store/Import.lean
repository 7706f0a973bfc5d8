import Shading.Proofs.Store.Calls
import Shading.Proofs.Type.Equality

/-!
Types that are made available in a table. What the look-up of a name finds decides everything: a
type of the right class is taken as it is, anything else is a fault, and only where nothing is found
does the table get a copy. `Store.Import` lists these outcomes. That a copy of an array equals the
type that was there before rests on the names of arrays, from which their sizes can be read. Main
statement: `Store.importType_lawful`.
-/

namespace Shading

/-! ## Names of arrays -/

namespace ArraySize

theorem toList_text (count : UInt32) : (sized count).text.toList = Nat.toDigits 10 count.toNat := by
  exact Nat.toList_repr

theorem text_injective {size size' : ArraySize} (same : size.text = size'.text) : size = size' := by
  have digits := congrArg String.toList same
  cases size with
  | sized count =>
    rw [toList_text] at digits
    cases size' with
    | sized count' =>
      rw [toList_text] at digits
      have counts : count.toNat = count'.toNat :=
        calc
          count.toNat = Nat.ofDigitChars 10 (Nat.toDigits 10 count.toNat) 0 :=
            Nat.ofDigitChars_ten_toDigits.symm
          _ = Nat.ofDigitChars 10 (Nat.toDigits 10 count'.toNat) 0 := by rw [digits]
          _ = count'.toNat := Nat.ofDigitChars_ten_toDigits
      rw [UInt32.toNat_inj.mp counts]
    | unsized => exact absurd digits Nat.toDigits_ne_nil
  | unsized =>
    cases size' with
    | sized count' =>
      rw [toList_text] at digits
      exact absurd digits.symm Nat.toDigits_ne_nil
    | unsized => rfl

/-- A size is written without brackets. -/
theorem not_bracket_of_mem_text {size : ArraySize} {c : Char} (member : c ∈ size.text.toList) :
    c ≠ '[' := by
  cases size with
  | sized count =>
    rw [toList_text] at member
    have digit := Nat.isDigit_of_mem_toDigits (by decide) (by decide) member
    rintro rfl
    exact absurd digit (by decide)
  | unsized => cases member

end ArraySize

namespace Ty

variable {component component' : Ty} {size size' : ArraySize}

theorem toList_arrayName : (component.arrayName size).toList =
    component.name.toList ++ '[' :: (size.text.toList ++ [']']) := by
  have parts : component.arrayName size = component.name ++ "[" ++ size.text ++ "]" := by rfl
  simp [parts, String.toList_append]

/-- The size of an array can be read from its name. It stands behind the last bracket that opens, as
the name of the element type may have brackets as well. -/
theorem size_eq_of_arrayName_eq (same : component.arrayName size = component'.arrayName size') :
    size = size' := by
  -- From the end on, the name is that of the size up to the first bracket that opens.
  have behind (component : Ty) (size : ArraySize) :
      ((component.arrayName size).toList.reverse.takeWhile (· != '[')) =
        ']' :: size.text.toList.reverse := by
    have plain : ∀ c ∈ ']' :: size.text.toList.reverse, (c != '[') = true := by
      intro c member
      rcases List.mem_cons.mp member with rfl | inside
      · decide
      · exact bne_iff_ne.mpr (ArraySize.not_bracket_of_mem_text (List.mem_reverse.mp inside))
    have reversed : (component.arrayName size).toList.reverse =
        (']' :: size.text.toList.reverse) ++ '[' :: component.name.toList.reverse := by
      simp [toList_arrayName]
    rw [reversed, List.takeWhile_append_of_pos plain, List.takeWhile_cons_of_neg (by decide),
      List.append_nil]
  have texts := behind component size
  rw [same, behind component' size'] at texts
  have reversed := (List.cons.inj texts).2
  exact ArraySize.text_injective (String.toList_injective (List.reverse_injective reversed.symm))

/-- Whether a type has the name that its element type and its size give, if it is an array. -/
def NamedBySize (type : Ty) : Prop :=
  ∀ size, type.arraySize? = some size → type.name = type.component.arrayName size

/-! ## Copies -/

/-- What stays the same in a copy of a type under a new id. -/
inductive CopiedAs (id : Nat) : Ty → Ty → Prop where
  | array {head : Head} {component : Ty} {size : ArraySize} :
      CopiedAs id (array head component size) (array { id, name := head.name } component size)
  | struct {head : Head} {members : List Member} :
      CopiedAs id (struct head members)
        (struct { id, name := head.name, span := head.span } members)
  | enum {head : Head} : CopiedAs id (enum head) (enum { id, name := head.name })

variable {id : Nat} {type copy visible : Ty}

theorem CopiedAs.name_eq (copied : type.CopiedAs id copy) : copy.name = type.name := by
  cases copied <;> rfl

theorem CopiedAs.beq (copied : type.CopiedAs id copy) : (copy == type) = true := by
  cases copied <;> exact beq_iff.mpr ⟨rfl, rfl, rfl, rfl, rfl⟩

theorem CopiedAs.withId_eq (copied : type.CopiedAs id copy) : copy.withId id = copy := by
  cases copied <;> rfl

/-- Every type of a program can be copied. -/
theorem exists_copiedAs (made : type.isMade = true) (id : Nat) :
    ∃ copy, type.CopiedAs id copy := by
  cases type with
  | array head component size => exact ⟨_, .array⟩
  | struct head members => exact ⟨_, .struct⟩
  | enum head => exact ⟨_, .enum⟩
  | _ => cases made

theorem Standard.isMade (standard : type.Standard) (own : type.isBuiltin = false) :
    type.isMade = true := by
  cases standard with
  | builtin member =>
    have builtin : Builtin.all.all Ty.isBuiltin = true := by rfl
    rw [List.all_eq_true.mp builtin type member] at own
    cases own
  | array | struct | enum => rfl

/-- Types of one class and one name are equal, of arrays those that are named by their sizes. -/
theorem beq_of_namedBySize (made : type.isMade = true) (name : visible.name = type.name)
    (typeClass : visible.typeClass = type.typeClass) (bySize : type.NamedBySize)
    (visibleBySize : visible.NamedBySize) : (visible == type) = true := by
  cases type with
  | array head component size =>
    cases visible with
    | array head' component' size' =>
      have names := (visibleBySize size' rfl).symm.trans (name.trans (bySize size rfl))
      refine beq_iff.mpr ⟨name, rfl, rfl, rfl, congrArg some ?_⟩
      exact size_eq_of_arrayName_eq names
    | _ => cases typeClass
  | struct head members =>
    cases visible with
    | struct => exact beq_iff.mpr ⟨name, rfl, rfl, rfl, rfl⟩
    | _ => cases typeClass
  | enum head =>
    cases visible with
    | enum => exact beq_iff.mpr ⟨name, rfl, rfl, rfl, rfl⟩
    | _ => cases typeClass
  | _ => cases made

end Ty

/-! ## A table of types -/

namespace Table

variable {types : List Ty} {table : Table}

/-- Every name is bound to a symbol of that name. -/
def Named (table : Table) : Prop :=
  ∀ name symbol, table.find? name = some symbol → symbol.name = name

theorem Named.bindAll (named : table.Named) :
    (types.foldl (fun t type => t.bind (.type type)) table).Named := by
  induction types generalizing table with
  | nil => exact named
  | cons type rest inductionHypothesis =>
    refine inductionHypothesis ?_
    intro name symbol found
    rw [find?_bind] at found
    split at found
    · rename_i same
      cases found
      exact same.symm
    · exact named name symbol found

theorem header_bindAll :
    (types.foldl (fun t type => t.bind (.type type)) table).header = table.header := by
  induction types generalizing table with
  | nil => rfl
  | cons type rest inductionHypothesis => rw [List.foldl_cons, inductionHypothesis, header_bind]

end Table

namespace Store

/-! ## The outcomes -/

/-- The outcomes of making a type available in a table. -/
inductive Import (store : Store) (type : Ty) (table : TableId) : Except Fault (Ty × Store) → Prop
  where
  | builtin (builtin : type.isBuiltin = true) : Import store type table (.ok (type, store))
  | visible {bound : Ty} (own : type.isBuiltin = false)
      (found : store.find? table type.name = some (.type bound))
      (typeClass : bound.typeClass = type.typeClass) : Import store type table (.ok (bound, store))
  | otherClass {bound : Ty} (own : type.isBuiltin = false)
      (found : store.find? table type.name = some (.type bound))
      (typeClass : bound.typeClass ≠ type.typeClass) :
      Import store type table
        (.error (.boundToOtherClass type.name bound.typeClass type.typeClass))
  | nonType {symbol : Symbol} (own : type.isBuiltin = false)
      (found : store.find? table type.name = some symbol) (other : ∀ bound, symbol ≠ .type bound) :
      Import store type table (.error (.boundToNonType type.name))
  | copied {copy : Ty} (own : type.isBuiltin = false)
      (missing : store.find? table type.name = none) (copied : type.CopiedAs store.nextId copy) :
      Import store type table (.ok (copy, store.called (.add table (.type copy))))
  | uncopiable (own : type.isBuiltin = false) (missing : store.find? table type.name = none)
      (found : type.isMade = false) : Import store type table (.error (.uncopiable type.name))

variable {store after : Store} {type result copy : Ty} {table : TableId}

theorem copyType_of_copiedAs (copied : type.CopiedAs store.nextId copy) :
    store.copyType type = .ok (copy, store.fresh.2) := by
  cases copied <;> rfl

theorem importType_cases (store : Store) (type : Ty) (table : TableId) :
    store.Import type table (store.importType type table) := by
  rw [importType]
  by_cases builtin : type.isBuiltin = true
  · rw [if_pos builtin]
    exact .builtin builtin
  · have own : type.isBuiltin = false := by simpa using builtin
    rw [if_neg builtin]
    cases found : store.find? table type.name with
    | none =>
      dsimp only
      by_cases made : type.isMade = true
      · obtain ⟨copy, copied⟩ := Ty.exists_copiedAs made store.nextId
        have outcome : store.Import type table _ := .copied own found copied
        rw [called, Symbol.withId, copied.withId_eq] at outcome
        rw [copyType_of_copiedAs copied]
        exact outcome
      · have found' : type.isMade = false := by simpa using made
        have fault : store.copyType type = .error (.uncopiable type.name) := by
          cases type with
          | array | struct | enum => cases found'
          | _ => rfl
        rw [fault]
        exact .uncopiable own found found'
    | some symbol =>
      cases symbol with
      | type bound =>
        dsimp only
        by_cases typeClass : bound.typeClass = type.typeClass
        · rw [if_pos typeClass]
          exact .visible own found typeClass
        · rw [if_neg typeClass]
          exact .otherClass own found typeClass
      | _ => exact .nonType own found (by simp)

/-! ## Stores that are grown from the empty one -/

/-- The stores that are made from the empty one, a step at a time. -/
inductive Grown : Store → Prop where
  | empty : Grown {}
  | numbered {store : Store} (grown : Grown store) : Grown store.fresh.2
  | root {store : Store} (grown : Grown store) : Grown store.newRoot.2
  | newTable {store : Store} (grown : Grown store) (parent? : Option TableId) (builtin : Bool)
      (inside : ∀ parent ∈ parent?, parent < store.tables.size) :
      Grown (store.newTable parent? builtin).2
  | called {store : Store} (grown : Grown store) (call : TableCall) :
      Grown (store.called call)
  | imported {store after : Store} (grown : Grown store) {type result : Ty} {table : TableId}
      (imported : store.importType type table = .ok (result, after)) : Grown after
  | attached {store after : Store} (grown : Grown store) {target : Variable} {value : Expr}
      (attached : store.attachInitial target value = .ok after) : Grown after
  | defined {store after : Store} (grown : Grown store) {function : Function}
      {definition : Nat} (defined : store.define function definition = .ok after) : Grown after
  | released {store : Store} (grown : Grown store) (definition : Nat) :
      Grown (store.release definition)

/-- What holds of the tables of every store: names stand for symbols of that name, and a table is
newer than the one above it. -/
structure Tidy (store : Store) : Prop where
  named : store.Named
  older : ∀ id parent builtin, store.header? id = some (some parent, builtin) → parent < id

namespace Tidy

theorem of_tables_eq (tidy : store.Tidy) (same : after.tables = store.tables) :
    after.Tidy where
  named table name symbol found := by
    rw [findLocal?, same] at found
    exact tidy.named table name symbol found
  older id parent builtin header := by
    rw [header?, same] at header
    exact tidy.older id parent builtin header

theorem newTable (tidy : store.Tidy) {parent? : Option TableId} {builtin : Bool}
    (inside : ∀ parent ∈ parent?, parent < store.tables.size) :
    (store.newTable parent? builtin).2.Tidy where
  named table name symbol found := by
    rw [findLocal?_newTable] at found
    exact tidy.named table name symbol found
  older id parent builtin' header := by
    by_cases new : id = store.tables.size
    · subst id
      rw [header?_newTable_self] at header
      obtain ⟨above, -⟩ := Prod.mk.inj (Option.some.inj header)
      exact inside parent above
    · rw [header?, tables_newTable, if_neg new] at header
      exact tidy.older id parent builtin' header

theorem called (tidy : store.Tidy) (call : TableCall) : (store.called call).Tidy where
  named := tidy.named.called call
  older id parent builtin header := by
    rw [header?_called] at header
    exact tidy.older id parent builtin header

/-- A change of one table that keeps its bindings under their names, and what is above it. -/
theorem update (tidy : store.Tidy) (table : TableId) {change : Table → Table}
    (names : ∀ content : Table, content.Named → (change content).Named)
    (headers : ∀ content : Table, (change content).header = content.header) :
    (store.update table change).Tidy := by
  constructor
  · intro other name symbol found
    rw [findLocal?, tables_update] at found
    obtain ⟨changed, here, found⟩ := Option.bind_eq_some_iff.mp found
    have before (content : Table) (there : store.tables[other]? = some content) :
        content.Named := by
      intro name symbol bound
      apply tidy.named other name symbol
      rw [findLocal?, there]
      exact bound
    split at here
    · obtain ⟨content, there, same⟩ := Option.map_eq_some_iff.mp here
      have kept := names content (before content there)
      rw [same] at kept
      exact kept name symbol found
    · exact before changed here name symbol found
  · intro id parent builtin header
    apply tidy.older id parent builtin
    rw [header?, tables_update] at header
    split at header
    · have same : Table.header ∘ change = Table.header := funext headers
      rw [Option.map_map, same] at header
      exact header
    · exact header

/-- A new root binds every builtin type under its name. -/
theorem newRoot (tidy : store.Tidy) : store.newRoot.2.Tidy :=
  have opened : (store.newTable none true).2.Tidy := tidy.newTable (by simp)
  opened.update store.tables.size (fun _ => Table.Named.bindAll) fun _ => Table.header_bindAll

end Tidy

/-- Every step keeps the tables in order. -/
theorem Grown.tidy {store : Store} (grown : store.Grown) : store.Tidy := by
  induction grown with
  | empty =>
    constructor
    · intro table name symbol found
      rw [findLocal?_of_size_le _ _ _ (Nat.zero_le _)] at found
      cases found
    · intro id parent builtin header
      rw [header?, Array.getElem?_empty] at header
      cases header
  | numbered _ inductionHypothesis => exact inductionHypothesis.of_tables_eq rfl
  | root _ inductionHypothesis => exact inductionHypothesis.newRoot
  | newTable _ parent? builtin inside inductionHypothesis =>
    exact inductionHypothesis.newTable inside
  | called _ call inductionHypothesis => exact inductionHypothesis.called call
  | @imported store after _ type result table imported inductionHypothesis =>
    -- Of the outcomes that are no fault, only a copy changes the store, and by a call.
    have outcome := store.importType_cases type table
    rw [imported] at outcome
    cases outcome with
    | builtin | visible => exact inductionHypothesis
    | copied => exact inductionHypothesis.called _
  | attached _ attached inductionHypothesis =>
    exact inductionHypothesis.of_tables_eq (tables_of_attachInitial attached)
  | defined _ defined inductionHypothesis =>
    exact inductionHypothesis.of_tables_eq (tables_of_define defined)
  | released _ definition inductionHypothesis => exact inductionHypothesis.of_tables_eq rfl

/-! ## Look-up from below -/

/-- A table or one beneath it, where neither that one nor any table between them binds a name. -/
inductive Beneath (store : Store) (name : String) (table : TableId) : TableId → Prop where
  | here : Beneath store name table table
  | under {lower parent : TableId} {builtin : Bool}
      (header : store.header? lower = some (some parent, builtin))
      (vacant : store.findLocal? lower name = none) (above : Beneath store name table parent) :
      Beneath store name table lower

variable {name : String}

/-- What is bound in the table itself is found first. -/
theorem find?_of_findLocal? {symbol : Symbol} (bound : store.findLocal? table name = some symbol) :
    store.find? table name = some symbol := by
  rw [findLocal?] at bound
  obtain ⟨content, here, bound⟩ := Option.bind_eq_some_iff.mp bound
  rw [find?, here]
  dsimp only
  rw [bound]

theorem find?_of_vacant {parent : TableId} {builtin : Bool} (older : parent < table)
    (header : store.header? table = some (some parent, builtin))
    (vacant : store.findLocal? table name = none) :
    store.find? table name = store.find? parent name := by
  obtain ⟨content, here, above⟩ := exists_of_header? header
  rw [findLocal?, here, Option.bind_some] at vacant
  rw [find?, here]
  dsimp only
  rw [vacant, above]
  exact if_pos older

theorem Beneath.find?_eq {lower : TableId} (beneath : store.Beneath name table lower)
    (tidy : store.Tidy) : store.find? lower name = store.find? table name := by
  induction beneath with
  | here => rfl
  | under header vacant _ inductionHypothesis =>
    rw [find?_of_vacant (tidy.older _ _ _ header) header vacant, inductionHypothesis]

/-! ## The laws -/

/-- What it means that a type was made available in a table as another one. -/
structure Imported (store : Store) (type : Ty) (table : TableId) (result : Ty) (after : Store) :
    Prop where
  name_eq : result.name = type.name
  typeClass_eq : result.typeClass = type.typeClass
  found : after.find? table type.name = some (.type result)
  others_eq : ∀ other ≠ table, after.tables[other]? = store.tables[other]?
  header_eq : after.header? table = store.header? table
  /-- The table owns one symbol more exactly if nothing was found. -/
  owned_eq : after.owned table =
    store.owned table ++ if (store.find? table type.name).isNone then [.type result] else []
  unchanged : (store.find? table type.name).isSome → after = store
  /-- As long as it is found there, the same type is returned there and below, and nothing else
  happens. -/
  again : ∀ later : Store, later.Grown →
    later.find? table type.name = after.find? table type.name →
    ∀ lower, later.Beneath type.name table lower → later.importType type lower = .ok (result, later)
  beq : type.NamedBySize →
    (∀ bound, store.find? table type.name = some (.type bound) → bound.NamedBySize) →
    (result == type) = true

/-- What making a type available in a table does. A fault leaves no store behind, so that the tables
are those from before. -/
structure ImportLaws (store : Store) (type : Ty) (table : TableId) : Prop where
  builtin : type.isBuiltin = true → store.importType type table = .ok (type, store)
  /-- There are no other faults. In particular, where nothing is found there is a copy. -/
  error_iff : type.isBuiltin = false → ∀ fault, store.importType type table = .error fault ↔
    (∃ symbol, store.find? table type.name = some symbol ∧ (∀ bound, symbol ≠ .type bound) ∧
      fault = .boundToNonType type.name) ∨
    ∃ bound, store.find? table type.name = some (.type bound) ∧ bound.typeClass ≠ type.typeClass ∧
      fault = .boundToOtherClass type.name bound.typeClass type.typeClass
  ok : type.isBuiltin = false → ∀ result after, store.importType type table = .ok (result, after) →
    store.Imported type table result after

theorem importType_of_visible (own : type.isBuiltin = false)
    (found : store.find? table type.name = some (.type result))
    (typeClass : result.typeClass = type.typeClass) :
    store.importType type table = .ok (result, store) := by
  have foreign : ¬type.isBuiltin = true := by simp [own]
  rw [importType, if_neg foreign, found]
  exact if_pos typeClass

theorem again_of_found (own : type.isBuiltin = false)
    (typeClass : result.typeClass = type.typeClass)
    (found : after.find? table type.name = some (.type result)) {later : Store}
    (grown : later.Grown) (same : later.find? table type.name = after.find? table type.name)
    {lower : TableId} (beneath : later.Beneath type.name table lower) :
    later.importType type lower = .ok (result, later) := by
  have below : later.find? lower type.name = some (.type result) := by
    rw [beneath.find?_eq grown.tidy, same, found]
  exact importType_of_visible own below typeClass

theorem imported_of_visible (tidy : store.Tidy) (made : type.isMade = true)
    (own : type.isBuiltin = false) (found : store.find? table type.name = some (.type result))
    (typeClass : result.typeClass = type.typeClass) :
    store.Imported type table result store := by
  obtain ⟨holder, bound⟩ := exists_findLocal?_of_find? found
  have name : result.name = type.name := tidy.named holder type.name (.type result) bound
  exact
    { name_eq := name
      typeClass_eq := typeClass
      found := found
      others_eq := fun _ _ => rfl
      header_eq := rfl
      owned_eq := by simp [found]
      unchanged := fun _ => rfl
      again := fun _ grown same _ lower => again_of_found own typeClass found grown same lower
      beq := fun bySize visible =>
        Ty.beq_of_namedBySize made name typeClass bySize (visible result found) }

theorem imported_of_copied (tidy : store.Tidy) (inside : table < store.tables.size)
    (own : type.isBuiltin = false) (missing : store.find? table type.name = none)
    (copied : type.CopiedAs store.nextId copy) :
    store.Imported type table copy (store.called (.add table (.type copy))) := by
  have typeClass : copy.typeClass = type.typeClass := (Ty.beq_iff.mp copied.beq).2.1
  have kept : (Symbol.type copy).withId store.nextId = .type copy :=
    congrArg Symbol.type copied.withId_eq
  have standing : store.standing table (.type copy) = .type copy := by rfl
  have found : (store.called (.add table (.type copy))).find? table type.name =
      some (.type copy) := by
    have bound := tidy.named.findLocal?_add (.type copy) inside
    rw [kept, standing] at bound
    rw [← copied.name_eq]
    exact find?_of_findLocal? bound
  have handed : store.handover? (.add table (.type copy)) = some ⟨table, .type copy, none⟩ := by
    rw [handover?, kept]
    rfl
  refine
    { name_eq := copied.name_eq
      typeClass_eq := typeClass
      found := found
      others_eq := fun other different => ?_
      header_eq := header?_called store table _
      owned_eq := ?_
      unchanged := ?_
      again := fun _ grown same _ lower => again_of_found own typeClass found grown same lower
      beq := fun _ _ => copied.beq }
  · rw [tables_called]
    exact if_neg different.symm
  · rw [owned_called store table _ inside, handed, missing]
    simp [Handover.symbols]
  · simp [missing]

/-- A type is made available in a table as the type of its name that is visible there, or else as a
copy, and a fault tells that the name stands for something else. -/
theorem importType_lawful (grown : store.Grown) (standard : type.Standard)
    (inside : table < store.tables.size) : store.ImportLaws type table := by
  have tidy := grown.tidy
  have outcome := store.importType_cases type table
  constructor
  · intro builtin
    rw [importType, if_pos builtin]
  · intro own fault
    have made := standard.isMade own
    generalize store.importType type table = answer at outcome
    cases outcome with
    | builtin builtin => simp [own] at builtin
    | visible _ found typeClass => simp [found, typeClass]
    | otherClass _ found typeClass =>
      simpa [found, typeClass] using eq_comm
    | nonType _ found other =>
      simpa [found, other] using eq_comm
    | copied _ missing => simp [missing]
    | uncopiable _ _ found => simp [made] at found
  · intro own result after returned
    have made := standard.isMade own
    rw [returned] at outcome
    cases outcome with
    | builtin builtin => simp [own] at builtin
    | visible _ found typeClass => exact imported_of_visible tidy made own found typeClass
    | copied _ missing copied => exact imported_of_copied tidy inside own missing copied

/-- `int[2]`, as some program made it. -/
def pairType : Ty := .array { id := 75, name := "int[2]" } Builtin.int (.sized 2)

/-- The copy of a type in the upper one of two tables is found from the lower one. -/
theorem pairType_importLaws :
    let copy : Ty := .array { id := 74, name := "int[2]" } Builtin.int (.sized 2)
    let after := twoScopes.called (.add 0 (.type copy))
    twoScopes.Grown ∧ pairType.Standard ∧ 0 < twoScopes.tables.size ∧
      twoScopes.ImportLaws pairType 0 ∧ twoScopes.importType pairType 0 = .ok (copy, after) ∧
      after.importType pairType 1 = .ok (copy, after) ∧ (copy == pairType) = true := by
  intro copy after
  have grown : twoScopes.Grown :=
    .newTable (.newTable .empty none true (by simp)) (some 0) false (by decide)
  have standard : pairType.Standard := .array _ _ (.builtin (List.mem_of_getElem? (i := 5) rfl))
  have inside : 0 < twoScopes.tables.size := by decide
  have laws := importType_lawful grown standard inside
  have missing : twoScopes.find? 0 pairType.name = none := by
    rw [find?]
    rfl
  have returned : twoScopes.importType pairType 0 = .ok (copy, after) := by
    rw [importType, missing]
    rfl
  have imported := laws.ok rfl copy after returned
  have below : after.Beneath pairType.name 0 1 := .under rfl rfl .here
  have bySize : pairType.NamedBySize := by
    intro size sized
    cases sized
    rfl
  refine ⟨grown, standard, inside, laws, returned, ?_, ?_⟩
  · exact imported.again after (.called grown _) rfl 1 below
  · exact imported.beq bySize (by simp [missing])

end Store

end Shading
