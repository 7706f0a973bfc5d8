import Shading.Element

/-!
The scopes in a tree. `scopes` reads off which table should be the parent of which: that of the
nearest block or switch around. A `for` holds its table beside its body, so that the table of a loop
is the parent of none.
-/

namespace Shading

/-- A symbol table with the parent it should have. -/
structure Scope where
  table : TableId
  parent? : Option TableId
  /-- Whether a `for` carries the table. -/
  loop : Bool
  deriving DecidableEq, Repr

/-- The scope of a node that may carry a table. -/
def Scope.below (loop : Bool) (outer : TableId) (table? : Option TableId) : List Scope :=
  table?.toList.map fun table => { table, parent? := some outer, loop }

namespace Stmt

mutual

/-- The scopes in a statement below a table, in the order in which a blob holds them. -/
def scopes (outer : TableId) : Stmt → List Scope
  | .block statements table? _ =>
    Scope.below false outer table? ++ scopesOfAll (table?.getD outer) statements
  | .doLoop body _ => body.scopes outer
  | .forLoop initializer _ _ body table? =>
    scopesOfSome outer initializer ++ body.scopes outer ++ Scope.below true outer table?
  | .ifElse _ _ whenTrue whenFalse => whenTrue.scopes outer ++ scopesOfSome outer whenFalse
  | .switch _ _ cases table? =>
    Scope.below false outer table? ++ scopesOfCases (table?.getD outer) cases
  | .breakLoop | .continueLoop | .discard | .evaluate _ | .inlined _ | .nothing | .returnValue _
  | .declare _ => []

def scopesOfSome (outer : TableId) : Option Stmt → List Scope
  | none => []
  | some statement => statement.scopes outer

def scopesOfAll (outer : TableId) : List Stmt → List Scope
  | [] => []
  | statement :: rest => statement.scopes outer ++ scopesOfAll outer rest

def scopesOfCases (outer : TableId) : List (CaseOf Stmt) → List Scope
  | [] => []
  | ⟨_, body⟩ :: rest => body.scopes outer ++ scopesOfCases outer rest

end

theorem scopesOfAll_eq (outer : TableId) (statements : List Stmt) :
    scopesOfAll outer statements = statements.flatMap (scopes outer) := by
  induction statements with
  | nil => rfl
  | cons statement rest inductionHypothesis =>
    rw [scopesOfAll, List.flatMap_cons, inductionHypothesis]

theorem scopesOfCases_eq (outer : TableId) (cases : List (CaseOf Stmt)) :
    scopesOfCases outer cases = cases.flatMap fun entry => entry.body.scopes outer := by
  induction cases with
  | nil => rfl
  | cons entry rest inductionHypothesis =>
    rw [scopesOfCases, List.flatMap_cons, inductionHypothesis]

end Stmt

/-! ## Parents -/

/-- Every parent is the table around all scopes, or the table of a scope that no loop carries. -/
def Scope.Held (outer : TableId) (scopes : List Scope) : Prop :=
  ∀ scope ∈ scopes, scope.parent? = some outer ∨
    ∃ holder ∈ scopes, holder.loop = false ∧ scope.parent? = some holder.table

namespace Scope.Held

variable {outer : TableId} {earlier later : List Scope}

theorem nil : Held outer [] :=
  fun _ absent => absurd absent List.not_mem_nil

theorem append (first : Held outer earlier) (second : Held outer later) :
    Held outer (earlier ++ later) := by
  intro scope member
  rcases List.mem_append.mp member with inEarlier | inLater
  · rcases first scope inEarlier with around | ⟨holder, held, rest⟩
    · exact Or.inl around
    · exact Or.inr ⟨holder, List.mem_append_left _ held, rest⟩
  · rcases second scope inLater with around | ⟨holder, held, rest⟩
    · exact Or.inl around
    · exact Or.inr ⟨holder, List.mem_append_right _ held, rest⟩

theorem below (loop : Bool) (table? : Option TableId) : Held outer (Scope.below loop outer table?) := by
  intro scope member
  obtain ⟨table, _, rfl⟩ := List.mem_map.mp member
  exact Or.inl rfl

/-- A block or switch that carries a table holds the scopes in it. -/
theorem opened {table? : Option TableId} (inner : Held (table?.getD outer) later) :
    Held outer (Scope.below false outer table? ++ later) := by
  cases table? with
  | none => exact inner
  | some table =>
    intro scope member
    rcases List.mem_cons.mp member with same | inLater
    · subst same
      exact Or.inl rfl
    · rcases inner scope inLater with around | ⟨holder, held, rest⟩
      · exact Or.inr ⟨_, List.mem_cons_self, rfl, around⟩
      · exact Or.inr ⟨holder, List.mem_cons_of_mem _ held, rest⟩

end Scope.Held

namespace Stmt

mutual

theorem scopes_held (outer : TableId) : (statement : Stmt) →
    Scope.Held outer (statement.scopes outer)
  | .block statements table? _ => .opened (scopesOfAll_held (table?.getD outer) statements)
  | .doLoop body _ => scopes_held outer body
  | .forLoop initializer _ _ body table? =>
    ((scopesOfSome_held outer initializer).append (scopes_held outer body)).append
      (.below true table?)
  | .ifElse _ _ whenTrue whenFalse =>
    (scopes_held outer whenTrue).append (scopesOfSome_held outer whenFalse)
  | .switch _ _ cases table? => .opened (scopesOfCases_held (table?.getD outer) cases)
  | .breakLoop | .continueLoop | .discard | .evaluate _ | .inlined _ | .nothing | .returnValue _
  | .declare _ => .nil

theorem scopesOfSome_held (outer : TableId) : (statement? : Option Stmt) →
    Scope.Held outer (scopesOfSome outer statement?)
  | none => .nil
  | some statement => scopes_held outer statement

theorem scopesOfAll_held (outer : TableId) : (statements : List Stmt) →
    Scope.Held outer (scopesOfAll outer statements)
  | [] => .nil
  | statement :: rest => (scopes_held outer statement).append (scopesOfAll_held outer rest)

theorem scopesOfCases_held (outer : TableId) : (cases : List (CaseOf Stmt)) →
    Scope.Held outer (scopesOfCases outer cases)
  | [] => .nil
  | ⟨_, body⟩ :: rest => (scopes_held outer body).append (scopesOfCases_held outer rest)

end

end Stmt

/-- The scopes in an element of a program. The table of an enum stands alone. -/
def Element.scopes (outer : TableId) : Element → List Scope
  | .enum definition => [{ table := definition.table, parent? := none, loop := false }]
  | .function definition => definition.body.scopes outer
  | .interfaceBlock _ | .global _ | .struct _ => []

end Shading
