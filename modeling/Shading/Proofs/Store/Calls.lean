import Shading.Proofs.Store.Table

/-!
Runs of calls on a forest of tables. A call hands a new symbol to a table, with its name bound or
only where that is vacant, or binds the name of a symbol that exists. The laws are shown for one
call and then for a run: what tables own and bind is read off the calls alone. Main statement:
`Store.calls_lawful`.
-/

namespace Shading

/-! ## Calls -/

/-- A type like another one, under an id of its own. -/
def Ty.withId (id : Nat) : Ty → Ty
  | void head => void { head with id }
  | invalid head => invalid { head with id }
  | handle head => handle { head with id }
  | scalar head kind priority bits => scalar { head with id } kind priority bits
  | literal head concrete priority => literal { head with id } concrete priority
  | vector head component columns => vector { head with id } component columns
  | matrix head component columns rows => matrix { head with id } component columns rows
  | array head component size => array { head with id } component size
  | struct head members => struct { head with id } members
  | enum head => enum { head with id }
  | generic head choices => generic { head with id } choices

@[simp]
theorem Ty.id_withId (id : Nat) (type : Ty) : (type.withId id).id = id := by
  cases type <;> rfl

@[simp]
theorem Ty.name_withId (id : Nat) (type : Ty) : (type.withId id).name = type.name := by
  cases type <;> rfl

namespace Symbol

/-- A symbol like another one, under an id of its own. -/
def withId (id : Nat) : Symbol → Symbol
  | type t => type (t.withId id)
  | var v => var { v with id }
  | function f => function { f with id }
  | overloads set => overloads { set with id }
  | member field => member { field with id }
  | synonym _ span name target => synonym id span name target

@[simp]
theorem id_withId (id : Nat) (symbol : Symbol) : (symbol.withId id).id = id := by
  cases symbol with
  | type t => exact t.id_withId id
  | _ => rfl

@[simp]
theorem name_withId (id : Nat) (symbol : Symbol) : (symbol.withId id).name = symbol.name := by
  cases symbol with
  | type t => exact t.name_withId id
  | _ => rfl

/-- The functions a name stands for if it stands for this symbol. -/
def functions : Symbol → List Function
  | function f => [f]
  | overloads set => set.functions
  | _ => []

/-- Whether a symbol is what a name of some functions stands for: the function itself if there is
one only, and otherwise an overload set of all in their order. -/
inductive StandsFor : Symbol → List Function → Prop where
  | single (f : Function) : StandsFor (function f) [f]
  | several (set : OverloadSet) (many : set.others ≠ []) : StandsFor (overloads set) set.functions

theorem StandsFor.functions_eq {symbol : Symbol} {listed : List Function}
    (stands : symbol.StandsFor listed) : symbol.functions = listed := by
  cases stands <;> rfl

end Symbol

/-- A call on a symbol table. A value that is added or adopted becomes a symbol by the call, which
gives it its id. -/
inductive TableCall where
  | add (table : TableId) (value : Symbol)
  | adopt (table : TableId) (value : Symbol)
  | bind (table : TableId) (symbol : Symbol)

namespace TableCall

def table : TableCall → TableId
  | add table _ | adopt table _ | bind table _ => table

def symbol : TableCall → Symbol
  | add _ symbol | adopt _ symbol | bind _ symbol => symbol

/-- The value that a call makes the table own. -/
def value? : TableCall → Option Symbol
  | add _ value | adopt _ value => some value
  | bind _ _ => none

end TableCall

/-- What a call makes a table own: the value, and the overload set that it was merged into. -/
structure Handover where
  table : TableId
  value : Symbol
  set? : Option OverloadSet

def Handover.symbols (handover : Handover) : List Symbol :=
  handover.value :: handover.set?.toList.map .overloads

namespace Store

/-- The functions that a name stands for in one table. -/
def functions (store : Store) (table : TableId) (name : String) : List Function :=
  ((store.findLocal? table name).map Symbol.functions).getD []

/-- The overload set of an added function and the functions that its name stands for already, if
there are any. -/
def merged? (store : Store) (id : Nat) (table : TableId) : Symbol → Option OverloadSet
  | .function added =>
    match store.functions table added.name with
    | [] => none
    | first :: others => some { id, first, others := others ++ [added] }
  | _ => none

/-- The store after a call. -/
def called (store : Store) : TableCall → Store
  | .add table value => store.fresh.2.add table (value.withId store.nextId)
  | .adopt table value => store.fresh.2.adopt table (value.withId store.nextId)
  | .bind table symbol => store.bind table symbol

def afterCalls (store : Store) (calls : List TableCall) : Store :=
  calls.foldl called store

/-- What a call hands over. The value takes the next id, and a set the one after it. -/
def handover? (store : Store) : TableCall → Option Handover
  | .add table value =>
    let added := value.withId store.nextId
    some ⟨table, added, store.merged? (store.nextId + 1) table added⟩
  | .adopt table value => some ⟨table, value.withId store.nextId, none⟩
  | .bind _ _ => none

/-- What the calls of a run hand over, in their order. -/
def handovers (store : Store) : List TableCall → List Handover
  | [] => []
  | call :: rest => (store.handover? call).toList ++ (store.called call).handovers rest

/-- Tables that hold nothing yet, each below an older one or below none. -/
structure Forest (store : Store) : Prop where
  older : ∀ (id : TableId) (table : Table), store.tables[id]? = some table →
    ∀ parent ∈ table.parent?, parent < id
  blank : ∀ (id : TableId) (table : Table), store.tables[id]? = some table →
    table.owned = [] ∧ table.names = []

/-- The path from a table over its parent and the parents above to the top. -/
inductive Chain (store : Store) : TableId → List TableId → Prop where
  | top {id : TableId} {builtin : Bool} (here : store.header? id = some (none, builtin)) :
      Chain store id [id]
  | under {id parent : TableId} {builtin : Bool} {path : List TableId}
      (here : store.header? id = some (some parent, builtin)) (older : parent < id)
      (above : Chain store parent path) : Chain store id (id :: path)

/-- A run of calls that adds functions of one name to a table and otherwise leaves the binding of
that name there as it is. The functions are listed as the table owns them. -/
inductive Joins (table : TableId) (name : String) : Store → List TableCall → List Function → Prop where
  | nothing (store : Store) : Joins table name store [] []
  | join {store : Store} {f : Function} {rest : List TableCall} {others : List Function}
      (named : f.name = name)
      (later : Joins table name (store.called (.add table (.function f))) rest others) :
      Joins table name store (.add table (.function f) :: rest)
        ({ f with id := store.nextId } :: others)
  | aside {store : Store} {call : TableCall} {rest : List TableCall} {others : List Function}
      (kept : (store.called call).findLocal? table name = store.findLocal? table name)
      (later : Joins table name (store.called call) rest others) :
      Joins table name store (call :: rest) others

/-! ## One call -/

/-- Every name is bound to a symbol of that name. -/
def Named (store : Store) : Prop :=
  ∀ table name symbol, store.findLocal? table name = some symbol → symbol.name = name

/-- What a call does to its table. -/
def change (store : Store) : TableCall → Table → Table
  | .add table value, content =>
    let added := value.withId store.nextId
    match store.merged? (store.nextId + 1) table added with
    | none => (content.own added).bind added
    | some set => ((content.own added).own (.overloads set)).bind (.overloads set)
  | .adopt _ value, content => content.adopt (value.withId store.nextId)
  | .bind _ symbol, content => content.bind symbol

variable (store : Store) (table other : TableId) (name : String)

theorem joined?_eq_merged? (symbol : Symbol) (id : Nat) :
    store.tables[table]?.bind (·.joined? symbol) =
      (store.merged? id table symbol).map fun set => (set.first, set.others) := by
  cases symbol with
  | function added =>
    rw [merged?, functions, findLocal?]
    cases store.tables[table]? with
    | none => rfl
    | some content =>
      simp only [Option.bind_some, Table.joined?, Symbol.name]
      cases content.find? added.name with
      | none => rfl
      | some bound => cases bound <;> rfl
  | _ => cases store.tables[table]? <;> rfl

theorem id_of_merged? {store : Store} {table : TableId} {symbol : Symbol} {id : Nat}
    {set : OverloadSet} (merged : store.merged? id table symbol = some set) : set.id = id := by
  cases symbol with
  | function added =>
    rw [merged?] at merged
    split at merged
    · cases merged
    · cases merged
      rfl
  | _ => cases merged

/-- A call changes one table only. -/
theorem tables_called (call : TableCall) :
    (store.called call).tables[other]? =
      if call.table = other then store.tables[other]?.map (store.change call)
      else store.tables[other]? := by
  cases call with
  | add table value =>
    have unchanged : store.fresh.2.tables = store.tables := rfl
    rw [called, add, unchanged, joined?_eq_merged? store table _ (store.nextId + 1)]
    cases merged : store.merged? (store.nextId + 1) table (value.withId store.nextId) with
    | none =>
      have same : store.change (.add table value) = fun content =>
          (content.own (value.withId store.nextId)).bind (value.withId store.nextId) := by
        funext content
        rw [change, merged]
      rw [same]
      exact tables_update store.fresh.2 table other _
    | some set =>
      have same : store.change (.add table value) = fun content =>
          ((content.own (value.withId store.nextId)).own (.overloads set)).bind
            (.overloads set) := by
        funext content
        rw [change, merged]
      have labelled : set = { id := store.nextId + 1, first := set.first, others := set.others } := by
        rw [← id_of_merged? merged]
      rw [same, labelled]
      exact tables_update store.fresh.2.fresh.2 table other _
  | adopt table value => exact tables_adopt store.fresh.2 table other _
  | bind table symbol => exact tables_bind store table other symbol

theorem header_change (call : TableCall) (content : Table) :
    (store.change call content).header = content.header := by
  cases call with
  | add table value =>
    rw [change]
    split <;> rfl
  | adopt table value => exact content.header_adopt _
  | bind table symbol => exact content.header_bind symbol

theorem owned_change (call : TableCall) (content : Table) :
    (store.change call content).owned =
      content.owned ++ (store.handover? call).toList.flatMap Handover.symbols := by
  cases call with
  | add table value =>
    rw [change, handover?]
    cases merged : store.merged? (store.nextId + 1) table (value.withId store.nextId) with
    | none => rfl
    | some set => simp [Handover.symbols]
  | adopt table value => exact content.owned_adopt _
  | bind table symbol => exact (List.append_nil _).symm

@[simp]
theorem header?_called (call : TableCall) :
    (store.called call).header? other = store.header? other := by
  rw [header?, tables_called, header?]
  split
  · cases store.tables[other]? with
    | none => rfl
    | some content => exact congrArg some (store.header_change call content)
  · rfl

/-- A table gets what is handed over to it at the end of what it owns. -/
theorem owned_called (call : TableCall) (inside : table < store.tables.size) :
    (store.called call).owned table =
      store.owned table ++
        ((store.handover? call).toList.filter (·.table = table)).flatMap Handover.symbols := by
  have receiver : ∀ handover ∈ store.handover? call, handover.table = call.table := by
    intro handover given
    cases call <;> cases given <;> rfl
  rw [owned, tables_called, owned]
  by_cases same : call.table = table
  · have all : (store.handover? call).toList.filter (·.table = table) =
        (store.handover? call).toList := by
      rw [List.filter_eq_self]
      intro handover given
      simpa [same] using receiver handover (Option.mem_toList.mp given)
    rw [if_pos same, all, Array.getElem?_eq_getElem inside]
    exact store.owned_change call _
  · have none : (store.handover? call).toList.filter (·.table = table) = [] := by
      rw [List.filter_eq_nil_iff]
      intro handover given
      simpa [receiver handover (Option.mem_toList.mp given)] using same
    rw [if_neg same, none]
    exact (List.append_nil _).symm

/-! ## Bindings -/

/-- What the name of an added value stands for afterwards. -/
def standing (store : Store) (table : TableId) (added : Symbol) : Symbol :=
  match store.merged? (store.nextId + 1) table added with
  | none => added
  | some set => .overloads set

theorem functions_of_merged? {store : Store} {table : TableId} {symbol : Symbol} {id : Nat}
    {set : OverloadSet} (merged : store.merged? id table symbol = some set) :
    ∃ added, symbol = .function added ∧ store.functions table added.name ≠ [] ∧
      set.functions = store.functions table added.name ++ [added] := by
  cases symbol with
  | function added =>
    rw [merged?] at merged
    cases found : store.functions table added.name with
    | nil =>
      rw [found] at merged
      cases merged
    | cons first others =>
      rw [found] at merged
      cases merged
      exact ⟨added, rfl, by simp [found], by simp [found, OverloadSet.functions]⟩
  | _ => cases merged

/-- The first function that a name stands for has that name. -/
theorem Named.functions {store : Store} (named : store.Named) {table : TableId} {name : String}
    {first : Function} {others : List Function}
    (found : store.functions table name = first :: others) : first.name = name := by
  rw [Store.functions] at found
  cases bound : store.findLocal? table name with
  | none =>
    rw [bound] at found
    cases found
  | some symbol =>
    rw [bound] at found
    have called := named table name symbol bound
    cases symbol with
    | function f =>
      cases found
      exact called
    | overloads set =>
      cases found
      exact called
    | _ => cases found

theorem Named.standing {store : Store} (named : store.Named) (table : TableId) (added : Symbol) :
    (store.standing table added).name = added.name := by
  rw [Store.standing]
  cases merged : store.merged? (store.nextId + 1) table added with
  | none => rfl
  | some set =>
    obtain ⟨function, same, some, all⟩ := functions_of_merged? merged
    obtain ⟨first, others, found⟩ := List.exists_cons_of_ne_nil some
    subst same
    rw [found] at all
    have start : set.first = first := (List.cons.inj all).1
    show set.first.name = function.name
    rw [start]
    exact named.functions found

theorem find?_change_add (table : TableId) (value : Symbol) (content : Table) :
    (store.change (.add table value) content).find? name =
      if name = (store.standing table (value.withId store.nextId)).name then
        some (store.standing table (value.withId store.nextId))
      else content.find? name := by
  rw [change, standing]
  cases store.merged? (store.nextId + 1) table (value.withId store.nextId) with
  | none => exact Table.find?_bind _ _ name
  | some set => exact Table.find?_bind _ _ name

theorem findLocal?_called (call : TableCall) :
    (store.called call).findLocal? other name =
      if call.table = other then
        store.tables[other]?.bind fun content => (store.change call content).find? name
      else store.findLocal? other name := by
  rw [findLocal?, tables_called, findLocal?]
  split
  · rw [Option.bind_map]
    rfl
  · rfl

/-- No call binds any other name than that of its symbol. -/
theorem Named.find?_change_of_ne {store : Store} (named : store.Named) {name : String}
    (call : TableCall) (different : name ≠ call.symbol.name) (content : Table) :
    (store.change call content).find? name = content.find? name := by
  cases call with
  | add table value =>
    have same := named.standing table (value.withId store.nextId)
    rw [Symbol.name_withId] at same
    rw [find?_change_add, same]
    exact if_neg different
  | adopt table value =>
    have other : name ≠ (value.withId store.nextId).name := by
      rw [Symbol.name_withId]
      exact different
    rw [change, Table.find?_adopt, if_neg other, Option.or_none]
  | bind table symbol => exact (Table.find?_bind _ _ _).trans (if_neg different)

theorem Named.findLocal?_called_of_ne {store : Store} (named : store.Named) (call : TableCall)
    (other : TableId) {name : String} (different : name ≠ call.symbol.name) :
    (store.called call).findLocal? other name = store.findLocal? other name := by
  rw [findLocal?_called]
  split
  · simp only [named.find?_change_of_ne call different]
    rfl
  · rfl

theorem findLocal?_adopt_of_bound (table : TableId) (value : Symbol) {symbol : Symbol}
    (bound : store.findLocal? other name = some symbol) :
    (store.called (.adopt table value)).findLocal? other name = some symbol := by
  rw [findLocal?_called]
  split
  · rw [findLocal?] at bound
    obtain ⟨content, here, found⟩ := Option.bind_eq_some_iff.mp bound
    rw [here, Option.bind_some, change, Table.find?_adopt, found, Option.some_or]
  · exact bound

/-- A call leaves every binding under the name of its symbol. -/
theorem Named.called {store : Store} (named : store.Named) (call : TableCall) :
    (store.called call).Named := by
  intro other name symbol found
  by_cases same : name = call.symbol.name
  · rw [findLocal?_called] at found
    split at found
    · obtain ⟨content, here, found⟩ := Option.bind_eq_some_iff.mp found
      have before (old : content.find? name = some symbol) : symbol.name = name := by
        apply named other name symbol
        rw [findLocal?, here]
        exact old
      cases call with
      | add table value =>
        rw [find?_change_add] at found
        split at found
        · rename_i under
          cases found
          exact under.symm
        · exact before found
      | adopt table value =>
        rw [change, Table.find?_adopt, Option.or_eq_some_iff] at found
        rcases found with old | ⟨_, new⟩
        · exact before old
        · split at new
          · rename_i under
            cases new
            exact under.symm
          · cases new
      | bind table bound =>
        rw [change, Table.find?_bind] at found
        split at found
        · rename_i under
          cases found
          exact under.symm
        · exact before found
    · exact named other name symbol found
  · rw [named.findLocal?_called_of_ne call other same] at found
    exact named other name symbol found

/-! ## Runs of calls -/

@[simp]
theorem afterCalls_cons (call : TableCall) (rest : List TableCall) :
    store.afterCalls (call :: rest) = (store.called call).afterCalls rest := by
  rfl

theorem size_called (call : TableCall) :
    (store.called call).tables.size = store.tables.size := by
  cases call with
  | add table value =>
    rw [called, add]
    split <;> exact Array.size_modify
  | adopt table value => exact Array.size_modify
  | bind table symbol => exact Array.size_modify

theorem size_afterCalls (calls : List TableCall) :
    (store.afterCalls calls).tables.size = store.tables.size := by
  induction calls generalizing store with
  | nil => rfl
  | cons call rest inductionHypothesis =>
    rw [afterCalls_cons, inductionHypothesis, size_called]

theorem header?_afterCalls (calls : List TableCall) :
    (store.afterCalls calls).header? other = store.header? other := by
  induction calls generalizing store with
  | nil => rfl
  | cons call rest inductionHypothesis =>
    rw [afterCalls_cons, inductionHypothesis, header?_called]

theorem owned_afterCalls (calls : List TableCall) (inside : table < store.tables.size) :
    (store.afterCalls calls).owned table =
      store.owned table ++
        ((store.handovers calls).filter (·.table = table)).flatMap Handover.symbols := by
  induction calls generalizing store with
  | nil => exact (List.append_nil _).symm
  | cons call rest inductionHypothesis =>
    have stillInside : table < (store.called call).tables.size := by
      rw [size_called]
      exact inside
    rw [afterCalls_cons, inductionHypothesis _ stillInside, owned_called _ _ _ inside, handovers,
      List.filter_append, List.flatMap_append, List.append_assoc]

theorem Named.afterCalls {store : Store} (named : store.Named) (calls : List TableCall) :
    (store.afterCalls calls).Named := by
  induction calls generalizing store with
  | nil => exact named
  | cons call rest inductionHypothesis => exact inductionHypothesis (named.called call)

/-- The value of a call is handed over as it is, up to its id. -/
theorem value_handovers (calls : List TableCall) :
    (store.handovers calls).map (fun handover => (handover.table, handover.value.withId 0)) =
      calls.filterMap fun call => call.value?.map fun value => (call.table, value.withId 0) := by
  have again (value : Symbol) (first : Nat) : (value.withId first).withId 0 = value.withId 0 := by
    cases value with
    | type t => cases t <;> rfl
    | _ => rfl
  induction calls generalizing store with
  | nil => rfl
  | cons call rest inductionHypothesis =>
    rw [handovers, List.map_append, inductionHypothesis]
    cases call <;> simp [handover?, TableCall.value?, TableCall.table, again]

/-- A call gives out as many ids as it hands over symbols, one after the other. -/
theorem ids_handover? (call : TableCall) :
    let symbols := (store.handover? call).toList.flatMap Handover.symbols
    symbols.map Symbol.id = List.range' store.nextId symbols.length ∧
      (store.called call).nextId = store.nextId + symbols.length := by
  cases call with
  | add table value =>
    have unchanged : store.fresh.2.tables = store.tables := rfl
    rw [called, add, handover?, unchanged, joined?_eq_merged? store table _ (store.nextId + 1)]
    cases merged : store.merged? (store.nextId + 1) table (value.withId store.nextId) with
    | none =>
      refine ⟨?_, rfl⟩
      simp [Handover.symbols]
    | some set =>
      have labelled : (Symbol.overloads set).id = store.nextId + 1 := id_of_merged? merged
      refine ⟨?_, rfl⟩
      simp [Handover.symbols, labelled, List.range'_succ]
  | adopt table value =>
    refine ⟨?_, rfl⟩
    simp [handover?, Handover.symbols]
  | bind table symbol => exact ⟨rfl, rfl⟩

theorem ids_handovers (calls : List TableCall) :
    let symbols := (store.handovers calls).flatMap Handover.symbols
    symbols.map Symbol.id = List.range' store.nextId symbols.length := by
  induction calls generalizing store with
  | nil => rfl
  | cons call rest inductionHypothesis =>
    have first := store.ids_handover? call
    have others := inductionHypothesis (store.called call)
    dsimp only at first others ⊢
    rw [first.2] at others
    rw [handovers, List.flatMap_append, List.map_append, List.length_append, first.1, others,
      List.range'_append_1]

/-- What the name of an added function stands for: that function after those before. -/
theorem standing_function (table : TableId) (added : Function) :
    (store.standing table (.function added)).StandsFor
      (store.functions table added.name ++ [added]) := by
  rw [standing]
  cases merged : store.merged? (store.nextId + 1) table (.function added) with
  | none =>
    rw [merged?] at merged
    cases found : store.functions table added.name with
    | nil => exact .single added
    | cons first others =>
      rw [found] at merged
      cases merged
  | some set =>
    obtain ⟨function, same, some, all⟩ := functions_of_merged? merged
    cases same
    rw [← all]
    refine .several set ?_
    intro alone
    rw [OverloadSet.functions, alone] at all
    have one := congrArg List.length all
    have before := List.length_pos_iff.mpr some
    simp only [List.length_cons, List.length_nil, List.length_append] at one
    omega

theorem Named.findLocal?_add {store : Store} (named : store.Named) {table : TableId}
    (value : Symbol) (inside : table < store.tables.size) :
    (store.called (.add table value)).findLocal? table value.name =
      some (store.standing table (value.withId store.nextId)) := by
  have title := named.standing table (value.withId store.nextId)
  rw [Symbol.name_withId] at title
  rw [findLocal?_called]
  show (if table = table then _ else _) = _
  rw [if_pos rfl, Array.getElem?_eq_getElem inside, Option.bind_some, find?_change_add, title,
    if_pos rfl]

theorem functions_of_bound {store : Store} {table : TableId} {name : String} {symbol : Symbol}
    {listed : List Function} (bound : store.findLocal? table name = some symbol)
    (stands : symbol.StandsFor listed) : store.functions table name = listed := by
  rw [functions, bound]
  exact stands.functions_eq

/-- The functions that a run adds under one name stand behind those that the name stood for. -/
theorem Joins.stands {table : TableId} {name : String} {store : Store} {calls : List TableCall}
    {joined : List Function} (joins : Joins table name store calls joined) (named : store.Named)
    (inside : table < store.tables.size) :
    (joined = [] ∧ (store.afterCalls calls).findLocal? table name = store.findLocal? table name) ∨
      ∃ symbol, (store.afterCalls calls).findLocal? table name = some symbol ∧
        symbol.StandsFor (store.functions table name ++ joined) := by
  induction joins with
  | nothing store => exact Or.inl ⟨rfl, rfl⟩
  | @join store f rest others isNamed later inductionHypothesis =>
    have stands := store.standing_function table { f with id := store.nextId }
    have bound := named.findLocal?_add (.function f) inside
    rw [show (Symbol.function f).name = name from isNamed] at bound
    have before : store.functions table f.name = store.functions table name := by rw [isNamed]
    dsimp only at stands
    rw [before] at stands
    rw [afterCalls_cons]
    rcases inductionHypothesis (named.called _) (by rwa [size_called]) with
      ⟨alone, same⟩ | ⟨symbol, found, all⟩
    · subst alone
      exact Or.inr ⟨_, same.trans bound, stands⟩
    · rw [functions_of_bound bound stands, List.append_assoc] at all
      exact Or.inr ⟨symbol, found, all⟩
  | @aside store call rest others kept later inductionHypothesis =>
    have same : (store.called call).functions table name = store.functions table name := by
      rw [functions, kept, functions]
    rw [afterCalls_cons, ← kept, ← same]
    exact inductionHypothesis (named.called call) (by rwa [size_called])

/-! ## Look-up in a forest -/

theorem exists_of_header? {store : Store} {id : TableId} {parent? : Option TableId} {builtin : Bool}
    (header : store.header? id = some (parent?, builtin)) :
    ∃ content, store.tables[id]? = some content ∧ content.parent? = parent? := by
  obtain ⟨content, here, same⟩ := Option.map_eq_some_iff.mp header
  exact ⟨content, here, congrArg Prod.fst same⟩

/-- Every table of a forest has a path to the top. -/
theorem Forest.exists_chain {store : Store} (forest : store.Forest) {table : TableId}
    (inside : table < store.tables.size) : ∃ path, store.Chain table path := by
  induction table using Nat.strongRecOn with
  | ind table inductionHypothesis =>
    have here : store.tables[table]? = some store.tables[table] := Array.getElem?_eq_getElem inside
    have header : store.header? table =
        some (store.tables[table].parent?, store.tables[table].builtin) := by
      rw [header?, here]
      rfl
    cases above : store.tables[table].parent? with
    | none =>
      rw [above] at header
      exact ⟨_, .top header⟩
    | some parent =>
      rw [above] at header
      have older := forest.older table _ here parent above
      obtain ⟨path, chain⟩ := inductionHypothesis parent older (Nat.lt_trans older inside)
      exact ⟨_, .under header older chain⟩

/-- A look-up finds the binding of the nearest table on the path that has one. -/
theorem Chain.find?_eq {start now : Store} {table : TableId} {path : List TableId}
    (chain : start.Chain table path) (headers : ∀ id, now.header? id = start.header? id)
    (name : String) : now.find? table name = path.findSome? fun id => now.findLocal? id name := by
  induction chain with
  | top here =>
    obtain ⟨content, here, top⟩ := exists_of_header? ((headers _).trans here)
    rw [find?, here, List.findSome?_cons, findLocal?, here, Option.bind_some]
    dsimp only
    cases content.find? name with
    | some symbol => rfl
    | none =>
      rw [top]
      rfl
  | under here older above inductionHypothesis =>
    obtain ⟨content, here, parent⟩ := exists_of_header? ((headers _).trans here)
    rw [find?, here, List.findSome?_cons, findLocal?, here, Option.bind_some]
    dsimp only
    cases content.find? name with
    | some symbol => rfl
    | none =>
      rw [parent]
      dsimp only
      rw [if_pos older]
      exact inductionHypothesis

/-! ## The laws -/

/-- What holds after a run of calls on a forest. -/
structure Laws (start : Store) (calls : List TableCall) (now : Store) : Prop where
  named : ∀ table name symbol, now.findLocal? table name = some symbol → symbol.name = name
  /-- A table owns what was handed over to it, in the order of the calls. -/
  owned_eq : ∀ table < start.tables.size, now.owned table =
    ((start.handovers calls).filter (·.table = table)).flatMap Handover.symbols
  /-- The values handed over are those of the calls, each once. -/
  values_eq :
    (start.handovers calls).map (fun handover => (handover.table, handover.value.withId 0)) =
      calls.filterMap fun call => call.value?.map fun value => (call.table, value.withId 0)
  /-- Every symbol that is handed over is new, sets included: its id comes right after the one
  before. -/
  ids_eq : ((start.handovers calls).flatMap Handover.symbols).map Symbol.id =
    List.range' start.nextId ((start.handovers calls).flatMap Handover.symbols).length
  /-- A run that adds functions of one name leaves the name to all of them, behind those that it
  stood for. -/
  joined : ∀ table < start.tables.size, ∀ name run functions, Joins table name now run functions →
    functions ≠ [] → ∃ symbol, (now.afterCalls run).findLocal? table name = some symbol ∧
      symbol.StandsFor (now.functions table name ++ functions)
  adopt_kept : ∀ table value other name symbol, now.findLocal? other name = some symbol →
    (now.called (.adopt table value)).findLocal? other name = some symbol
  others_kept : ∀ call other, other ≠ call.table →
    (now.called call).tables[other]? = now.tables[other]?
  /-- A look-up finds the binding of the nearest table above that has one. -/
  nearest : ∀ table < start.tables.size, ∃ path, start.Chain table path ∧
    ∀ name, now.find? table name = path.findSome? fun id => now.findLocal? id name

/-- On every forest, tables own and bind after any calls what the calls say. -/
theorem calls_lawful {start : Store} (forest : start.Forest) (calls : List TableCall) :
    start.Laws calls (start.afterCalls calls) := by
  have blankNames : start.Named := by
    intro table name symbol found
    rw [findLocal?] at found
    obtain ⟨content, here, found⟩ := Option.bind_eq_some_iff.mp found
    rw [Table.find?, (forest.blank table content here).2] at found
    cases found
  have named := blankNames.afterCalls calls
  have headers (id : TableId) := start.header?_afterCalls id calls
  refine
    { named
      owned_eq := ?_
      values_eq := start.value_handovers calls
      ids_eq := start.ids_handovers calls
      joined := ?_
      adopt_kept := fun table value other name symbol bound =>
        findLocal?_adopt_of_bound _ other name table value bound
      others_kept := fun call other different => ?_
      nearest := ?_ }
  · intro table inside
    rw [start.owned_afterCalls table calls inside, owned, Array.getElem?_eq_getElem inside]
    exact congrArg (· ++ _) (forest.blank table _ (Array.getElem?_eq_getElem inside)).1
  · intro table inside name run functions joins some
    have stillInside : table < (start.afterCalls calls).tables.size := by
      rw [size_afterCalls]
      exact inside
    rcases joins.stands named stillInside with ⟨none, _⟩ | found
    · exact absurd none some
    · exact found
  · rw [tables_called, if_neg different.symm]
  · intro table inside
    obtain ⟨path, chain⟩ := forest.exists_chain inside
    exact ⟨path, chain, fun name => chain.find?_eq headers name⟩

/-- A table and one below it. -/
def twoScopes : Store :=
  { tables := #[{ builtin := true }, { parent? := some 0, builtin := false }] }

def plainFunction (id : Nat) : Function :=
  { id, modifiers := {}, name := "f", parameters := [], returnType := Builtin.void, builtin := false }

/-- The table below borrows a function from the one above and adds another one of its name. -/
theorem borrowed_calls_lawful :
    let calls : List TableCall :=
      [.add 0 (.function (plainFunction 0)), .bind 1 (.function (plainFunction 74))]
    twoScopes.Forest ∧ twoScopes.Laws calls (twoScopes.afterCalls calls) ∧
      ∃ symbol, ((twoScopes.afterCalls calls).afterCalls
          [.add 1 (.function (plainFunction 0))]).findLocal? 1 "f" = some symbol ∧
        symbol.StandsFor [plainFunction 74, plainFunction 75] := by
  intro calls
  have forest : twoScopes.Forest := by
    constructor
    · intro id table here parent above
      match id with
      | 0 =>
        cases here
        cases above
      | 1 =>
        cases here
        cases above
        decide
      | _ + 2 => cases here
    · intro id table here
      match id with
      | 0 =>
        cases here
        exact ⟨rfl, rfl⟩
      | 1 =>
        cases here
        exact ⟨rfl, rfl⟩
      | _ + 2 => cases here
  have laws := calls_lawful forest calls
  have joins : Joins 1 "f" (twoScopes.afterCalls calls) [.add 1 (.function (plainFunction 0))]
      [plainFunction 75] :=
    .join rfl (.nothing _)
  exact ⟨forest, laws, laws.joined 1 (by decide) "f" _ _ joins (by simp)⟩

end Store

end Shading
