import Shading.Proofs.Decode.ParallelElement
import Shading.Proofs.Decode.Registry
import Shading.Proofs.Store.Origin

/-!
Two stores of which the second one has more in it: it was the same store, and then symbols and
tables were made in it. What is made in both of them afterwards gets numbers that lie apart by a
fixed amount. `Gap.Stores` says what the two stores have in common, and each operation of a store
keeps it; `Gap.parallel` makes sessions over such stores strictly parallel.
-/

namespace Shading

open Renamable (rename)

/-! ## Numbers -/

/-- A number that is raised by an amount from a least number on. -/
def raised (least amount number : Nat) : Nat :=
  if number < least then number else number + amount

theorem raised_of_lt {least number : Nat} (amount : Nat) (below : number < least) :
    raised least amount number = number := if_pos below

theorem raised_of_le {least number : Nat} (amount : Nat) (above : least ≤ number) :
    raised least amount number = number + amount := if_neg (Nat.not_lt.mpr above)

theorem raised_lt_raised_iff (least amount first second : Nat) :
    raised least amount first < raised least amount second ↔ first < second := by
  rw [raised, raised]
  split <;> split <;> omega

theorem raised_injective (least amount : Nat) : Function.Injective (raised least amount) := by
  intro first second same
  have notLess := raised_lt_raised_iff least amount first second
  have notMore := raised_lt_raised_iff least amount second first
  omega

/-- How far the numbers of two runs lie apart, and from which numbers on. -/
structure Gap where
  ids : Nat
  tables : Nat
  moreIds : Nat
  moreTables : Nat

namespace Gap

/-- The gap between a store and a later state of it. -/
def between (store later : Store) : Gap where
  ids := store.nextId
  tables := store.tables.size
  moreIds := later.nextId - store.nextId
  moreTables := later.tables.size - store.tables.size

def symbol (gap : Gap) : Nat → Nat := raised gap.ids gap.moreIds

def table (gap : Gap) : TableId → TableId := raised gap.tables gap.moreTables

/-- The numbers in the second run of what the first one made. Those of types are left out of
account, since nothing looks at them. -/
def numbers (gap : Gap) : Renaming := ⟨fun _ => 0, gap.symbol, gap.table⟩

/-- The numbers of the second run itself. -/
def settled : Renaming := ⟨fun _ => 0, fun id => id, fun table => table⟩

variable {gap : Gap}

theorem symbol_injective : Function.Injective gap.symbol := raised_injective _ _

theorem table_injective : Function.Injective gap.table := raised_injective _ _

theorem table_lt_iff (first second : TableId) :
    gap.table first < gap.table second ↔ first < second := raised_lt_raised_iff _ _ _ _

end Gap

/-! ## Stores -/

theorem rename_systemTypeOf (κ : Renaming) (name : String) (symbol? : Option Symbol) :
    systemTypeOf name (rename κ symbol?) = rename κ (systemTypeOf name symbol?) := by
  cases symbol? with
  | none => rfl
  | some symbol => cases symbol <;> rfl

namespace Store

/-- No id that is still to be drawn has an initial value or a definition. -/
structure Sealed (store : Store) : Prop where
  initials : ∀ id, store.nextId ≤ id → store.initials.lookup id = none
  definitions : ∀ id, store.nextId ≤ id → store.definitions.lookup id = none

/-- The table where a look-up goes on. -/
def olderParent? (store : Store) (id : TableId) : Option TableId :=
  store.tables[id]?.bind fun table => table.parent?.filter (· < id)

/-- What a look-up in one table gives to a record that looks up a type. -/
def localType? (store : Store) (id : TableId) (name : String) : Option (Except Fault Ty) :=
  (store.findLocal? id name).map fun symbol => systemTypeOf name (some symbol)

variable (store : Store)

theorem find?_eq (id : TableId) (name : String) :
    store.find? id name =
      (store.findLocal? id name).or ((store.olderParent? id).bind (store.find? · name)) := by
  rw [find?, findLocal?, olderParent?]
  cases store.tables[id]? with
  | none => rfl
  | some table =>
    dsimp only [Option.bind_some]
    cases table.find? name with
    | some symbol => rfl
    | none =>
      cases table.parent? with
      | none => rfl
      | some parent =>
        by_cases older : parent < id
        · simp [older, Option.filter_some]
        · simp [older, Option.filter_some]

theorem olderParent?_newTable (parent? : Option TableId) (builtin : Bool) (other : TableId) :
    (store.newTable parent? builtin).2.olderParent? other =
      if other = store.tables.size then parent?.filter (· < other)
      else store.olderParent? other := by
  rw [olderParent?, tables_newTable, olderParent?]
  split <;> rfl

theorem olderParent?_eq_of_header? {store later : Store} {id : TableId}
    (same : later.header? id = store.header? id) :
    later.olderParent? id = store.olderParent? id := by
  have parent (store : Store) : store.olderParent? id =
      (store.header? id).bind fun header => header.1.filter (· < id) := by
    rw [olderParent?, header?]
    cases store.tables[id]? <;> rfl
  rw [parent, parent, same]

theorem localType?_adopt {table : TableId} (symbol : Symbol) (other : TableId) (name : String)
    (inside : table < store.tables.size) :
    (store.adopt table symbol).localType? other name =
      (store.localType? other name).or
        (if table = other ∧ name = symbol.name then some (systemTypeOf name (some symbol))
          else none) := by
  rw [localType?, findLocal?_adopt _ _ _ _ _ inside, Option.map_or, localType?]
  split <;> rfl

theorem localType?_bind {table : TableId} (symbol : Symbol) (other : TableId) (name : String)
    (inside : table < store.tables.size) :
    (store.bind table symbol).localType? other name =
      if table = other ∧ name = symbol.name then some (systemTypeOf name (some symbol))
        else store.localType? other name := by
  rw [localType?, findLocal?_bind _ _ _ _ _ inside, localType?]
  split <;> rfl

end Store

namespace Gap

/-- What two stores have in common if the second one has more in it. Of the older tables only the
types of some names count. -/
structure Stores (gap : Gap) (named : String → Prop) (store store' : Store) : Prop where
  nextId_eq : store'.nextId = store.nextId + gap.moreIds
  ids_le : gap.ids ≤ store.nextId
  size_eq : store'.tables.size = store.tables.size + gap.moreTables
  tables_le : gap.tables ≤ store.tables.size
  olderParent?_eq : ∀ table,
    store'.olderParent? (gap.table table) = (store.olderParent? table).map gap.table
  localType?_alike : ∀ table name, named name →
    Alike gap.numbers settled (store.localType? table name)
      (store'.localType? (gap.table table) name)
  owned_alike : ∀ table, gap.tables ≤ table →
    Alike gap.numbers settled (store.owned table) (store'.owned (gap.table table))
  owned_drawn : ∀ table, gap.tables ≤ table →
    ∀ symbol ∈ store.owned table, symbol.id < store.nextId
  initial_iff : ∀ id,
    (store'.initials.lookup (gap.symbol id)).isSome = (store.initials.lookup id).isSome
  definition_iff : ∀ id,
    (store'.definitions.lookup (gap.symbol id)).isSome = (store.definitions.lookup id).isSome
  isSealed : store.Sealed

namespace Stores

variable {gap : Gap} {named : String → Prop} {store store' : Store}

theorem table_size (stores : gap.Stores named store store') :
    gap.table store.tables.size = store'.tables.size := by
  rw [stores.size_eq, Gap.table, raised_of_le _ stores.tables_le]

theorem table_lt_size_iff (stores : gap.Stores named store store') (table : TableId) :
    gap.table table < store'.tables.size ↔ table < store.tables.size := by
  rw [← stores.table_size, table_lt_iff]

theorem symbol_nextId (stores : gap.Stores named store store') :
    gap.symbol store.nextId = store'.nextId := by
  rw [stores.nextId_eq, Gap.symbol, raised_of_le _ stores.ids_le]

theorem find?_alike (stores : gap.Stores named store store') {name : String} (isNamed : named name)
    (table : TableId) :
    Alike gap.numbers settled (systemTypeOf name (store.find? table name))
      (systemTypeOf name (store'.find? (gap.table table) name)) := by
  -- A look-up goes on in an older table, and older tables have older counterparts.
  induction table using Nat.strongRecOn with
  | ind table inductionHypothesis =>
    have here := stores.localType?_alike table name isNamed
    rw [Store.localType?, Store.localType?] at here
    rw [Store.find?_eq, Store.find?_eq, stores.olderParent?_eq]
    cases found : store.findLocal? table name with
    | some symbol =>
      rw [found] at here
      cases found' : store'.findLocal? (gap.table table) name with
      | some symbol' =>
        rw [found'] at here
        exact Option.some.inj here
      | none =>
        rw [found'] at here
        cases here
    | none =>
      rw [found] at here
      cases found' : store'.findLocal? (gap.table table) name with
      | some symbol' =>
        rw [found'] at here
        cases here
      | none =>
        cases above : store.olderParent? table with
        | none => rfl
        | some parent =>
          have older : parent < table := by
            rw [Store.olderParent?, Option.bind_eq_some_iff] at above
            obtain ⟨content, _, filtered⟩ := above
            exact of_decide_eq_true (Option.filter_eq_some_iff.mp filtered).2
          exact inductionHypothesis parent older

theorem fresh (stores : gap.Stores named store store') :
    gap.Stores named store.fresh.2 store'.fresh.2 where
  nextId_eq := by
    rw [Store.nextId_fresh, Store.nextId_fresh, stores.nextId_eq]
    omega
  ids_le := Nat.le_succ_of_le stores.ids_le
  size_eq := stores.size_eq
  tables_le := stores.tables_le
  olderParent?_eq := stores.olderParent?_eq
  localType?_alike := stores.localType?_alike
  owned_alike := stores.owned_alike
  owned_drawn table new symbol member := Nat.lt_succ_of_lt (stores.owned_drawn table new symbol member)
  initial_iff := stores.initial_iff
  definition_iff := stores.definition_iff
  isSealed :=
    ⟨fun id new => stores.isSealed.initials id (Nat.le_of_succ_le new),
      fun id new => stores.isSealed.definitions id (Nat.le_of_succ_le new)⟩

theorem newTable (stores : gap.Stores named store store') {parent? parent?' : Option TableId}
    (same : parent?.map gap.table = parent?') (builtin : Bool) :
    gap.Stores named (store.newTable parent? builtin).2 (store'.newTable parent?' builtin).2 where
  nextId_eq := stores.nextId_eq
  ids_le := stores.ids_le
  size_eq := by
    rw [Store.size_newTable, Store.size_newTable, stores.size_eq]
    omega
  tables_le := by
    rw [Store.size_newTable]
    exact Nat.le_succ_of_le stores.tables_le
  olderParent?_eq table := by
    rw [Store.olderParent?_newTable, Store.olderParent?_newTable, ← stores.table_size]
    by_cases new : table = store.tables.size
    · rw [if_pos new, if_pos (congrArg gap.table new), ← same]
      cases parent? with
      | none => rfl
      | some parent =>
        by_cases older : parent < table
        · simp [older, table_lt_iff, Option.filter_some]
        · simp [older, table_lt_iff, Option.filter_some]
    · rw [if_neg new, if_neg fun equal => new (table_injective equal), stores.olderParent?_eq]
  localType?_alike table name isNamed := by
    rw [Store.localType?, Store.findLocal?_newTable, Store.localType?, Store.findLocal?_newTable]
    exact stores.localType?_alike table name isNamed
  owned_alike table new := by
    rw [Store.owned_newTable, Store.owned_newTable]
    exact stores.owned_alike table new
  owned_drawn table new symbol member := by
    rw [Store.owned_newTable] at member
    exact stores.owned_drawn table new symbol member
  initial_iff := stores.initial_iff
  definition_iff := stores.definition_iff
  isSealed := ⟨stores.isSealed.initials, stores.isSealed.definitions⟩

section Changes

variable {symbol symbol' : Symbol}

theorem here_iff (alike : Alike gap.numbers settled symbol symbol') (table other : TableId)
    (name : String) :
    (gap.table table = gap.table other ∧ name = symbol'.name) ↔
      (table = other ∧ name = symbol.name) := by
  rw [alike.kept Symbol.name fun _ symbol => symbol.name_rename, table_injective.eq_iff]

theorem alike_systemTypeOf (alike : Alike gap.numbers settled symbol symbol') (name : String) :
    Alike gap.numbers settled (systemTypeOf name (some symbol))
      (systemTypeOf name (some symbol')) := by
  rw [Alike, ← rename_systemTypeOf, ← rename_systemTypeOf, rename_some, rename_some, alike]

/-- A table is changed in both stores and keeps its header. Where there is no such table, nothing
changes in either of them. -/
theorem update (stores : gap.Stores named store store') (table : TableId)
    {change change' : Table → Table}
    (header_eq : ∀ other, (store.update table change).header? other = store.header? other)
    (header_eq' : ∀ other,
      (store'.update (gap.table table) change').header? other = store'.header? other)
    (localType?_alike : table < store.tables.size → gap.table table < store'.tables.size →
      ∀ other name, named name → Alike gap.numbers settled
        ((store.update table change).localType? other name)
        ((store'.update (gap.table table) change').localType? (gap.table other) name))
    (owned : table < store.tables.size → gap.table table < store'.tables.size →
      ∀ other, gap.tables ≤ other →
        Alike gap.numbers settled ((store.update table change).owned other)
          ((store'.update (gap.table table) change').owned (gap.table other)) ∧
        ∀ symbol ∈ (store.update table change).owned other, symbol.id < store.nextId) :
    gap.Stores named (store.update table change) (store'.update (gap.table table) change') := by
  by_cases inside : table < store.tables.size
  · have inside' := (stores.table_lt_size_iff table).mpr inside
    have size (store : Store) (table : TableId) (change : Table → Table) :
        (store.update table change).tables.size = store.tables.size := Array.size_modify
    refine { stores with
      size_eq := by rw [size, size, stores.size_eq]
      tables_le := by rw [size]; exact stores.tables_le
      olderParent?_eq := fun other => ?_
      localType?_alike := localType?_alike inside inside'
      owned_alike := fun other new => (owned inside inside' other new).1
      owned_drawn := fun other new => (owned inside inside' other new).2
      isSealed := ⟨stores.isSealed.initials, stores.isSealed.definitions⟩ }
    rw [Store.olderParent?_eq_of_header? (header_eq other),
      Store.olderParent?_eq_of_header? (header_eq' _), stores.olderParent?_eq]
  · have outside := Nat.le_of_not_lt inside
    have outside' := Nat.le_of_not_lt (mt (stores.table_lt_size_iff table).mp inside)
    rw [Store.update_of_size_le outside, Store.update_of_size_le outside']
    exact stores

theorem adopt (stores : gap.Stores named store store') (table : TableId)
    (alike : Alike gap.numbers settled symbol symbol') (drawn : symbol.id < store.nextId) :
    gap.Stores named (store.adopt table symbol) (store'.adopt (gap.table table) symbol') := by
  refine stores.update table (Store.header?_adopt store table · symbol)
    (Store.header?_adopt store' (gap.table table) · symbol') ?_ ?_
  · intro inside inside' other name isNamed
    have old := stores.localType?_alike other name isNamed
    have new := alike_systemTypeOf alike name
    have types := store.localType?_adopt symbol other name inside
    have types' := store'.localType?_adopt symbol' (gap.table other) name inside'
    rw [Store.adopt] at types types'
    rw [types, types']
    simp only [here_iff alike]
    split
    · show Option.map _ _ = Option.map _ _
      rw [Option.map_or, Option.map_or]
      exact congr (congrArg Option.or old) (congrArg some new)
    · rw [Option.or_none, Option.or_none]
      exact old
  · intro inside inside' other new
    have old := stores.owned_alike other new
    have drawnOld := stores.owned_drawn other new
    have owned := store.owned_adopt table other symbol inside
    have owned' := store'.owned_adopt (gap.table table) (gap.table other) symbol' inside'
    rw [Store.adopt] at owned owned'
    rw [owned, owned']
    simp only [table_injective.eq_iff]
    split
    · refine ⟨?_, fun added member => ?_⟩
      · rw [Alike, rename_append, rename_append, old, rename_cons, rename_cons, alike]
        rfl
      · rcases List.mem_append.mp member with before | same
        · exact drawnOld added before
        · rw [List.mem_singleton.mp same]
          exact drawn
    · rw [List.append_nil, List.append_nil]
      exact ⟨old, drawnOld⟩

theorem bind (stores : gap.Stores named store store') (table : TableId)
    (alike : Alike gap.numbers settled symbol symbol') :
    gap.Stores named (store.bind table symbol) (store'.bind (gap.table table) symbol') := by
  refine stores.update table (Store.header?_bind store table · symbol)
    (Store.header?_bind store' (gap.table table) · symbol') ?_ ?_
  · intro inside inside' other name isNamed
    have types := store.localType?_bind symbol other name inside
    have types' := store'.localType?_bind symbol' (gap.table other) name inside'
    rw [Store.bind] at types types'
    rw [types, types']
    simp only [here_iff alike]
    split
    · exact congrArg some (alike_systemTypeOf alike name)
    · exact stores.localType?_alike other name isNamed
  · intro inside inside' other new
    have owned := store.owned_bind table other symbol
    have owned' := store'.owned_bind (gap.table table) (gap.table other) symbol'
    rw [Store.bind] at owned owned'
    rw [owned, owned']
    exact ⟨stores.owned_alike other new, stores.owned_drawn other new⟩

end Changes

/-! ## Initial values and definitions -/

/-- An entry for one more id, in lists that have entries for the same ids. -/
theorem lookup_cons_isSome {α : Type} {entries entries' : List (Nat × α)}
    (same : ∀ id, (entries'.lookup (gap.symbol id)).isSome = (entries.lookup id).isSome)
    (added : Nat) (value value' : α) (id : Nat) :
    (((gap.symbol added, value') :: entries').lookup (gap.symbol id)).isSome =
      (((added, value) :: entries).lookup id).isSome := by
  rw [List.lookup_cons, List.lookup_cons]
  by_cases here : id = added
  · rw [here, beq_self_eq_true, beq_self_eq_true]
    rfl
  · have different : gap.symbol id ≠ gap.symbol added := fun equal => here (symbol_injective equal)
    rw [beq_false_of_ne here, beq_false_of_ne different]
    exact same id

theorem attachInitial (stores : gap.Stores named store store') {target target' : Variable}
    (alike : Alike gap.numbers settled target target') (drawn : target.id < store.nextId)
    (value value' : Expr) :
    Agrees True
      (fun after after' => after.nextId = store.nextId ∧ gap.Stores named after after')
      (store.attachInitial target value) (store'.attachInitial target' value') := by
  have ids : gap.symbol target.id = target'.id := congrArg Variable.id alike
  have names : target.name = target'.name := by
    have renamed := congrArg Variable.name alike
    exact renamed
  have same := stores.initial_iff target.id
  rw [Store.attachInitial, Store.attachInitial, Store.initial?, Store.initial?, ← ids, ← names]
  cases found : store.initials.lookup target.id with
  | some known =>
    rw [found] at same
    cases found' : store'.initials.lookup (gap.symbol target.id) with
    | some known' => exact .error _
    | none =>
      rw [found'] at same
      cases same
  | none =>
    rw [found] at same
    cases found' : store'.initials.lookup (gap.symbol target.id) with
    | some known' =>
      rw [found'] at same
      cases same
    | none =>
      refine .ok ⟨rfl, { stores with initial_iff := ?_, isSealed := ⟨?_, ?_⟩ }⟩
      · exact lookup_cons_isSome stores.initial_iff target.id value value'
      · exact Store.lookup_cons_of_lt stores.isSealed.initials drawn value
      · exact stores.isSealed.definitions

theorem define (stores : gap.Stores named store store') {function function' : Function}
    (alike : Alike gap.numbers settled function function') (drawn : function.id < store.nextId)
    (definition definition' : Nat) :
    Agrees True
      (fun after after' => after.nextId = store.nextId ∧ gap.Stores named after after')
      (store.define function definition) (store'.define function' definition') := by
  have ids : gap.symbol function.id = function'.id := congrArg Function.id alike
  have names : function.name = function'.name := by
    have renamed := congrArg Function.name alike
    exact renamed
  have same := stores.definition_iff function.id
  rw [Store.define, Store.define, ← ids, ← names]
  cases found : store.definitions.lookup function.id with
  | some known =>
    rw [found] at same
    cases found' : store'.definitions.lookup (gap.symbol function.id) with
    | some known' => exact .error _
    | none =>
      rw [found'] at same
      cases same
  | none =>
    rw [found] at same
    cases found' : store'.definitions.lookup (gap.symbol function.id) with
    | some known' =>
      rw [found'] at same
      cases same
    | none =>
      refine .ok ⟨rfl, { stores with definition_iff := ?_, isSealed := ⟨?_, ?_⟩ }⟩
      · exact lookup_cons_isSome stores.definition_iff function.id ⟨definition, true⟩
          ⟨definition', true⟩
      · exact stores.isSealed.initials
      · exact Store.lookup_cons_of_lt stores.isSealed.definitions drawn ⟨definition, true⟩

/-! ## A store and a later state of it -/

theorem alike_of_types {name : String} (symbol? : Option Symbol) :
    Alike gap.numbers settled (systemTypeOf name symbol?) (systemTypeOf name symbol?) := by
  have sameTypes : gap.numbers.types = settled.types := rfl
  have types (type : Ty) : rename gap.numbers type = rename settled type :=
    Ty.renamed_congr sameTypes type
  cases outcome : systemTypeOf name symbol? with
  | error fault => rfl
  | ok type => exact congrArg Except.ok (types type)

/-- A store that grew, and in which the names that count mean what they meant. -/
theorem of_grows {origin : Origin} {active : TableId} {created : List (Symbol × TableId)}
    {later : Store} (grows : store.Grows origin active created later)
    (ids_eq : origin.ids = store.nextId) (isSealed : store.Sealed) (laterSealed : later.Sealed)
    (kept : ∀ table < store.tables.size, ∀ name, named name →
      later.findLocal? table name = store.findLocal? table name) :
    (Gap.between store later).Stores named store later := by
  have ids_le := grows.nextId_le
  have tables_le := grows.size_le
  have oldTable {table : TableId} (old : table < store.tables.size) :
      (between store later).table table = table := raised_of_lt _ old
  have newTable {table : TableId} (new : store.tables.size ≤ table) :
      later.tables.size ≤ (between store later).table table := by
    have above : (between store later).table table = table + (later.tables.size - store.tables.size) :=
      raised_of_le _ new
    rw [above]
    omega
  have oldSymbol {id : Nat} (old : id < store.nextId) : (between store later).symbol id = id :=
    raised_of_lt _ old
  have newSymbol {id : Nat} (new : store.nextId ≤ id) :
      later.nextId ≤ (between store later).symbol id := by
    have above : (between store later).symbol id = id + (later.nextId - store.nextId) :=
      raised_of_le _ new
    rw [above]
    omega
  constructor
  case nextId_eq =>
    rw [between]
    dsimp only
    omega
  case ids_le => exact Nat.le_refl _
  case size_eq =>
    rw [between]
    dsimp only
    omega
  case tables_le => exact Nat.le_refl _
  case olderParent?_eq =>
    intro table
    by_cases old : table < store.tables.size
    · rw [oldTable old, Store.olderParent?_eq_of_header? (grows.header_eq table old)]
      cases above : store.olderParent? table with
      | none => rfl
      | some parent =>
        rw [Store.olderParent?, Option.bind_eq_some_iff] at above
        obtain ⟨content, _, filtered⟩ := above
        have older : parent < table := of_decide_eq_true (Option.filter_eq_some_iff.mp filtered).2
        rw [Option.map_some, oldTable (Nat.lt_trans older old)]
    · have new := Nat.le_of_not_lt old
      rw [Store.olderParent?, Store.olderParent?, Array.getElem?_eq_none new,
        Array.getElem?_eq_none (newTable new)]
      rfl
  case localType?_alike =>
    intro table name isNamed
    by_cases old : table < store.tables.size
    · rw [oldTable old, Store.localType?, Store.localType?, kept table old name isNamed]
      cases store.findLocal? table name with
      | none => rfl
      | some symbol => exact congrArg some (alike_of_types (some symbol))
    · have new := Nat.le_of_not_lt old
      rw [Store.localType?, Store.localType?, Store.findLocal?_of_size_le _ _ _ new,
        Store.findLocal?_of_size_le _ _ _ (newTable new)]
      rfl
  case owned_alike =>
    intro table new
    rw [Store.owned_of_size_le _ _ new, Store.owned_of_size_le _ _ (newTable new)]
    rfl
  case owned_drawn =>
    intro table new symbol member
    rw [Store.owned_of_size_le _ _ new] at member
    cases member
  case initial_iff =>
    intro id
    by_cases old : id < store.nextId
    · rw [oldSymbol old, grows.lookup_initials (Nat.lt_of_lt_of_eq old ids_eq.symm)]
    · have new := Nat.le_of_not_lt old
      rw [isSealed.initials id new, laterSealed.initials _ (newSymbol new)]
  case definition_iff =>
    intro id
    by_cases old : id < store.nextId
    · rw [oldSymbol old, grows.isSome_definitions (Nat.lt_of_lt_of_eq old ids_eq.symm)]
    · have new := Nat.le_of_not_lt old
      rw [isSealed.definitions id new, laterSealed.definitions _ (newSymbol new)]
  case isSealed => exact isSealed

end Stores

/-! ## Sessions -/

/-- Two sessions over one blob, whose stores have that in common. -/
structure Sessions (gap : Gap) (bytes : Array UInt8) (decoder decoder' : Decoder) : Prop where
  reader_eq : decoder'.reader = decoder.reader
  bytes_eq : decoder.reader.bytes = bytes
  active_eq : decoder'.active = gap.table decoder.active
  stores : gap.Stores (LooksUp bytes) decoder.store decoder'.store
  registered : ∀ place : Nat,
    Alike gap.numbers settled decoder.registry[place]?.join decoder'.registry[place]?.join ∧
      ∀ symbol, decoder.registry[place]?.join = some symbol →
        (∃ type, symbol = .type type) ∨ symbol.id < decoder.store.nextId

namespace Sessions

variable {gap : Gap} {bytes : Array UInt8} {decoder decoder' : Decoder}

/-- Both stores are exchanged, and no fewer ids are drawn. -/
theorem withStore (sessions : gap.Sessions bytes decoder decoder') {store store' : Store}
    (stores : gap.Stores (LooksUp bytes) store store')
    (grown : decoder.store.nextId ≤ store.nextId) :
    gap.Sessions bytes { decoder with store } { decoder' with store := store' } where
  reader_eq := sessions.reader_eq
  bytes_eq := sessions.bytes_eq
  active_eq := sessions.active_eq
  stores := stores
  registered place := by
    obtain ⟨alike, known⟩ := sessions.registered place
    refine ⟨alike, fun symbol found => ?_⟩
    exact (known symbol found).imp_right fun drawn => Nat.lt_of_lt_of_le drawn grown

theorem enter (sessions : gap.Sessions bytes decoder decoder') (id : UInt16)
    {symbol symbol' : Symbol} (alike : Alike gap.numbers settled symbol symbol')
    (known : (∃ type, symbol = .type type) ∨ symbol.id < decoder.store.nextId) :
    gap.Sessions bytes
      { decoder with registry := Decode.entered decoder.registry id symbol }
      { decoder' with registry := Decode.entered decoder'.registry id symbol' } := by
  refine { sessions with registered := fun place => ?_ }
  have old := sessions.registered place
  dsimp only
  rw [Registry.lookup_entered, Registry.lookup_entered]
  by_cases here : place = id.toNat
  · rw [if_pos here, if_pos here]
    refine ⟨congrArg some alike, fun found same => ?_⟩
    cases same
    exact known
  · rw [if_neg here, if_neg here]
    exact old

end Sessions

/-- Such sessions run in strict parallel: they fault alike as well. -/
def parallel (gap : Gap) (context : Context) (bytes : Array UInt8) : Parallel where
  first := gap.numbers
  second := settled
  context := context
  context' := context
  strict := True
  tail := #[]
  Related := gap.Sessions bytes
  Opened table := gap.tables ≤ table
  Drawn bound id := id < bound
  widens := .refl context
  sameContext _ := rfl
  noTail _ := rfl
  first_injective := symbol_injective
  second_injective := Function.injective_id
  drawn_mono le drawn := Nat.lt_of_lt_of_le drawn le
  drawn_last := Nat.lt_succ_self
  reader_eq sessions := by rw [sessions.reader_eq, Reader.extended_empty]
  withReader {_ _ reader} sessions sameBytes := by
    rw [Reader.extended_empty]
    exact { sessions with reader_eq := rfl, bytes_eq := sameBytes.trans sessions.bytes_eq }
  ids_alike sessions := ⟨sessions.stores.symbol_nextId, rfl⟩
  waste sessions := sessions.withStore sessions.stores.fresh (Nat.le_succ _)
  active_alike sessions := sessions.active_eq.symm
  activate sessions same := { sessions with active_eq := same.symm }
  adopt {decoder _ _ _} sessions alike drawn := by
    have adopted := sessions.stores.adopt decoder.active alike drawn
    rw [← sessions.active_eq] at adopted
    exact sessions.withStore adopted (Nat.le_refl _)
  registered sessions := sessions.registered
  enter sessions id alike known := sessions.enter id alike known
  visible {decoder _ _} sessions looksUp := by
    rw [sessions.active_eq]
    rw [sessions.bytes_eq] at looksUp
    exact sessions.stores.find?_alike looksUp decoder.active
  openTable {decoder decoder'} sessions inherit := by
    have parents : (if inherit then some decoder.active else none).map gap.table =
        if inherit then some decoder'.active else none := by
      rw [sessions.active_eq]
      split <;> rfl
    have opened := sessions.stores.newTable parents true
    exact ⟨sessions.stores.table_size, sessions.stores.tables_le,
      sessions.withStore opened (Nat.le_refl _)⟩
  bind {_ _ table table' _ _} sessions _ same alike := by
    have tables : gap.table table = table' := same
    rw [← tables]
    exact sessions.withStore (sessions.stores.bind table alike) (Nat.le_refl _)
  owned {_ _ table table'} sessions new same := by
    have tables : gap.table table = table' := same
    rw [← tables]
    exact ⟨sessions.stores.owned_alike table new, sessions.stores.owned_drawn table new⟩
  attach {_ _ _ _ value value'} sessions alike drawn _ := by
    have attached := sessions.stores.attachInitial alike drawn value value'
    refine attached.mono fun store store' _ still => ⟨still.1, ?_⟩
    exact sessions.withStore still.2 (Nat.le_of_eq still.1.symm)
  define {decoder decoder' _ _} sessions alike drawn := by
    have room := Nat.lt_succ_of_lt drawn
    have defined := sessions.stores.fresh.define alike room decoder.store.nextId
      decoder'.store.nextId
    refine defined.mono fun store store' _ still => ⟨still.1, ?_⟩
    refine sessions.withStore still.2 ?_
    rw [still.1]
    exact Nat.le_succ _

end Gap

end Shading
