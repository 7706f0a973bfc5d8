import Shading.Store

/-!
What the operations on symbol tables do to the names a table binds and to the symbols it owns, and
what attaching does to a store. A table is seen through `find?` and `owned`, a store through
`findLocal?`, `owned` and its counters; no proof outside this module looks into the list of bindings.
-/

namespace Shading

namespace Table

variable (table : Table) (symbol : Symbol) (name : String)

@[simp]
theorem owned_bind : (table.bind symbol).owned = table.owned := by
  rfl

@[simp]
theorem owned_own : (table.own symbol).owned = table.owned ++ [symbol] := by
  rfl

@[simp]
theorem owned_bindVacant : (table.bindVacant symbol).owned = table.owned := by
  rw [bindVacant]
  split <;> rfl

@[simp]
theorem owned_adopt : (table.adopt symbol).owned = table.owned ++ [symbol] := by
  rw [adopt, owned_bindVacant, owned_own]

@[simp]
theorem find?_own : (table.own symbol).find? name = table.find? name := by
  rfl

/-- A binding lasts through the removal of the bindings of another name. -/
theorem lookup_filter_of_ne (names : List (String × Symbol)) {removed : String}
    (different : name ≠ removed) :
    (names.filter fun entry => entry.1 != removed).lookup name = names.lookup name := by
  induction names with
  | nil => rfl
  | cons entry rest inductionHypothesis =>
    by_cases same : entry.1 = removed
    · have other : (name == entry.1) = false := by simpa [same] using different
      rw [List.filter_cons_of_neg (by simpa using same), List.lookup_cons, other,
        inductionHypothesis]
    · rw [List.filter_cons_of_pos (by simpa using same), List.lookup_cons, List.lookup_cons,
        inductionHypothesis]

/-- A new binding hides the old one of its name and no other. -/
theorem find?_bind :
    (table.bind symbol).find? name =
      if name = symbol.name then some symbol else table.find? name := by
  by_cases same : name = symbol.name
  · subst name
    rw [if_pos rfl]
    exact List.lookup_cons_self
  · have other : (name == symbol.name) = false := by simpa using same
    rw [if_neg same, find?, bind, List.lookup_cons, other]
    exact lookup_filter_of_ne name table.names same

/-- A binding that only fills a gap changes nothing else. -/
theorem find?_bindVacant :
    (table.bindVacant symbol).find? name =
      (table.find? name).or (if name = symbol.name then some symbol else none) := by
  rw [bindVacant]
  split
  · rename_i bound
    by_cases same : name = symbol.name
    · subst name
      obtain ⟨old, found⟩ := Option.isSome_iff_exists.mp bound
      rw [found]
      rfl
    · rw [if_neg same, Option.or_none]
  · rename_i vacant
    rw [find?_bind]
    by_cases same : name = symbol.name
    · subst name
      have missing : table.find? symbol.name = none := by simpa using vacant
      rw [missing, Option.none_or]
    · rw [if_neg same, if_neg same, Option.or_none]

theorem find?_adopt :
    (table.adopt symbol).find? name =
      (table.find? name).or (if name = symbol.name then some symbol else none) := by
  rw [adopt, find?_bindVacant, find?_own]

/-- What never changes in a table. -/
def header (table : Table) : Option TableId × Bool :=
  (table.parent?, table.builtin)

@[simp]
theorem header_bind : (table.bind symbol).header = table.header := by
  rfl

@[simp]
theorem header_adopt : (table.adopt symbol).header = table.header := by
  rw [adopt, bindVacant]
  split <;> rfl

end Table

namespace Store

/-! ## What is attached -/

section

variable {store after : Store} {target : Variable} {value : Expr} {id : Nat}

theorem attachInitial_cases (attached : store.attachInitial target value = .ok after) :
    store.initials.lookup target.id = none ∧
      after = { store with initials := (target.id, value) :: store.initials } := by
  rw [attachInitial] at attached
  cases found : store.initial? target with
  | some earlier =>
    rw [found] at attached
    cases attached
  | none =>
    rw [found] at attached
    cases attached
    exact ⟨found, rfl⟩

theorem attachInitial_of_vacant (vacant : store.initials.lookup target.id = none) :
    store.attachInitial target value =
      .ok { store with initials := (target.id, value) :: store.initials } := by
  rw [attachInitial, initial?, vacant]

theorem lookup_attached (attached : store.attachInitial target value = .ok after) :
    after.initials.lookup target.id = some value := by
  rw [(attachInitial_cases attached).2]
  exact List.lookup_cons_self

theorem lookup_attached_of_ne (attached : store.attachInitial target value = .ok after)
    (other : id ≠ target.id) : after.initials.lookup id = store.initials.lookup id := by
  rw [(attachInitial_cases attached).2, List.lookup_cons, beq_eq_false_iff_ne.mpr other]

theorem lookup_kept (attached : store.attachInitial target value = .ok after) (id : Nat)
    (earlier : Expr) (found : store.initials.lookup id = some earlier) :
    after.initials.lookup id = some earlier := by
  by_cases same : id = target.id
  · rw [same, (attachInitial_cases attached).1] at found
    cases found
  · rw [lookup_attached_of_ne attached same]
    exact found

theorem define_cases {function : Function} {definition : Nat}
    (defined : store.define function definition = .ok after) :
    after = { store with
      definitions := (function.id, { definition, alive := true }) :: store.definitions } := by
  rw [define] at defined
  split at defined
  · cases defined
  · cases defined
    rfl

/-- An entry for an id below a bound leaves those from the bound on without entries. -/
theorem lookup_cons_of_lt {α : Type} {entries : List (Nat × α)} {bound added : Nat}
    (free : ∀ id, bound ≤ id → entries.lookup id = none) (drawn : added < bound) (value : α) :
    ∀ id, bound ≤ id → ((added, value) :: entries).lookup id = none := by
  intro id new
  have different : id ≠ added := Nat.ne_of_gt (Nat.lt_of_lt_of_le drawn new)
  rw [List.lookup_cons, beq_false_of_ne different]
  exact free id new

end

/-! ## Tables -/

variable (store : Store) (table other : TableId) (symbol : Symbol) (name : String)

/-! ## Ids and counters -/

@[simp]
theorem nextId_fresh : store.fresh.2.nextId = store.nextId + 1 := by
  rfl

@[simp]
theorem tables_fresh : store.fresh.2.tables = store.tables := by
  rfl

@[simp]
theorem nextId_adopt : (store.adopt table symbol).nextId = store.nextId := by
  rfl

@[simp]
theorem size_adopt : (store.adopt table symbol).tables.size = store.tables.size := by
  exact Array.size_modify

@[simp]
theorem size_bind : (store.bind table symbol).tables.size = store.tables.size := by
  exact Array.size_modify

@[simp]
theorem size_newTable (parent? : Option TableId) (builtin : Bool) :
    (store.newTable parent? builtin).2.tables.size = store.tables.size + 1 := by
  exact Array.size_push _

/-! ## One table after a change -/

theorem tables_update (change : Table → Table) :
    (store.update table change).tables[other]? =
      if table = other then store.tables[other]?.map change else store.tables[other]? := by
  exact Array.getElem?_modify

theorem update_of_size_le {store : Store} {table : TableId} (outside : store.tables.size ≤ table)
    (change : Table → Table) : store.update table change = store := by
  have same : store.tables.modify table change = store.tables := by
    apply Array.ext_getElem?
    intro other
    rw [Array.getElem?_modify]
    split
    · rename_i here
      rw [← here, Array.getElem?_eq_none outside]
      rfl
    · rfl
  rw [update, same]

theorem tables_adopt :
    (store.adopt table symbol).tables[other]? =
      if table = other then store.tables[other]?.map (·.adopt symbol)
      else store.tables[other]? := by
  exact tables_update store table other _

theorem tables_bind :
    (store.bind table symbol).tables[other]? =
      if table = other then store.tables[other]?.map (·.bind symbol) else store.tables[other]? := by
  exact tables_update store table other _

theorem tables_newTable (parent? : Option TableId) (builtin : Bool) :
    (store.newTable parent? builtin).2.tables[other]? =
      if other = store.tables.size then some { parent?, builtin } else store.tables[other]? := by
  exact Array.getElem?_push

theorem tables_of_attachInitial {store after : Store} {target : Variable} {value : Expr}
    (attached : store.attachInitial target value = .ok after) : after.tables = store.tables := by
  rw [(attachInitial_cases attached).2]

theorem tables_of_define {store after : Store} {function : Function} {definition : Nat}
    (defined : store.define function definition = .ok after) : after.tables = store.tables := by
  rw [define_cases defined]

/-- What never changes in a table of a store. -/
def header? : Option (Option TableId × Bool) :=
  store.tables[table]?.map Table.header

theorem header?_adopt : (store.adopt table symbol).header? other = store.header? other := by
  rw [header?, tables_adopt, header?]
  split
  · cases store.tables[other]? <;> simp
  · rfl

theorem header?_bind : (store.bind table symbol).header? other = store.header? other := by
  rw [header?, tables_bind, header?]
  split
  · cases store.tables[other]? <;> simp
  · rfl

theorem header?_newTable (parent? : Option TableId) (builtin : Bool)
    (inside : other < store.tables.size) :
    (store.newTable parent? builtin).2.header? other = store.header? other := by
  rw [header?, tables_newTable, if_neg (Nat.ne_of_lt inside), header?]

theorem header?_newTable_self (parent? : Option TableId) (builtin : Bool) :
    (store.newTable parent? builtin).2.header? store.tables.size = some (parent?, builtin) := by
  rw [header?, tables_newTable, if_pos rfl]
  rfl

/-! ## What tables own -/

theorem owned_eq_of_tables {first second : Store}
    (same : first.tables[other]? = second.tables[other]?) :
    first.owned other = second.owned other := by
  rw [owned, owned, same]

theorem owned_of_size_le (outside : store.tables.size ≤ other) : store.owned other = [] := by
  rw [owned, Array.getElem?_eq_none outside]
  rfl

theorem owned_adopt (inside : table < store.tables.size) :
    (store.adopt table symbol).owned other =
      store.owned other ++ if table = other then [symbol] else [] := by
  rw [owned, tables_adopt, owned]
  by_cases same : table = other
  · subst other
    rw [if_pos rfl, if_pos rfl, Array.getElem?_eq_getElem inside]
    simp
  · rw [if_neg same, if_neg same, List.append_nil]

theorem owned_bind : (store.bind table symbol).owned other = store.owned other := by
  rw [owned, tables_bind, owned]
  split
  · cases store.tables[other]? <;> rfl
  · rfl

theorem owned_newTable (parent? : Option TableId) (builtin : Bool) :
    (store.newTable parent? builtin).2.owned other = store.owned other := by
  rw [owned, tables_newTable]
  split
  · rename_i new
    rw [owned_of_size_le store other (Nat.le_of_eq new.symm)]
    rfl
  · rfl

/-! ## What names stand for -/

theorem findLocal?_adopt (inside : table < store.tables.size) :
    (store.adopt table symbol).findLocal? other name =
      (store.findLocal? other name).or
        (if table = other ∧ name = symbol.name then some symbol else none) := by
  rw [findLocal?, tables_adopt, findLocal?]
  by_cases same : table = other
  · subst other
    rw [if_pos rfl, Array.getElem?_eq_getElem inside]
    simpa using Table.find?_adopt _ symbol name
  · simp [same]

theorem findLocal?_bind (inside : table < store.tables.size) :
    (store.bind table symbol).findLocal? other name =
      if table = other ∧ name = symbol.name then some symbol else store.findLocal? other name := by
  rw [findLocal?, tables_bind, findLocal?]
  by_cases same : table = other
  · subst other
    rw [if_pos rfl, Array.getElem?_eq_getElem inside]
    simpa using Table.find?_bind _ symbol name
  · simp [same]

theorem findLocal?_newTable (parent? : Option TableId) (builtin : Bool) :
    (store.newTable parent? builtin).2.findLocal? other name = store.findLocal? other name := by
  rw [findLocal?, tables_newTable, findLocal?]
  split
  · rename_i new
    rw [Array.getElem?_eq_none (Nat.le_of_eq new.symm)]
    rfl
  · rfl

theorem findLocal?_of_size_le (outside : store.tables.size ≤ other) :
    store.findLocal? other name = none := by
  rw [findLocal?, Array.getElem?_eq_none outside]
  rfl

/-- A symbol that a look-up finds is bound in the table itself or in one of its ancestors. -/
theorem exists_findLocal?_of_find? {store : Store} {table : TableId} {name : String}
    {symbol : Symbol} (found : store.find? table name = some symbol) :
    ∃ holder, store.findLocal? holder name = some symbol := by
  -- The look-up goes on in the parent only where that is the older table.
  induction table using Nat.strongRecOn with
  | ind table inductionHypothesis =>
    rw [find?] at found
    cases here : store.tables[table]? with
    | none =>
      rw [here] at found
      cases found
    | some content =>
      rw [here] at found
      dsimp only at found
      cases bound : content.find? name with
      | some symbolHere =>
        rw [bound] at found
        refine ⟨table, ?_⟩
        rw [findLocal?, here, ← found]
        exact bound
      | none =>
        rw [bound] at found
        dsimp only at found
        cases above : content.parent? with
        | none =>
          rw [above] at found
          cases found
        | some parent =>
          rw [above] at found
          dsimp only at found
          split at found
          · rename_i older
            exact inductionHypothesis parent older found
          · cases found

end Store

end Shading
