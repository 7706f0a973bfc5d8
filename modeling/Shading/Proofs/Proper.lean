import Shading.Element
import Shading.Decode.Symbol
import Shading.Expr.Construct
import Shading.Proofs.Stepping

/-!
Faults that stand for operations without an end. Only the decoders bound how deeply records nest,
and only queries of constants follow values in circles, so no builder of types, expressions,
statements or elements ends in such a fault. An outcome of this kind is `Proper`; each builder has
one lemma, put together from those of the builders it calls.
-/

namespace Shading

variable {α β : Type}

/-- Whether a fault stands for an operation that never ends. -/
def Fault.isEndless (fault : Fault) : Bool :=
  fault matches .nestingBound | .circularConstant

/-- An outcome that comes to an end. -/
def Proper (outcome : Except Fault α) : Prop :=
  ∀ fault, outcome = .error fault → fault.isEndless = false

namespace Proper

theorem ok (value : α) : Proper (.ok value) := by
  intro fault same
  cases same

theorem error {fault : Fault} (ends : fault.isEndless = false) :
    Proper (.error fault : Except Fault α) := by
  intro other same
  cases same
  exact ends

theorem bind {outcome : Except Fault α} {next : α → Except Fault β} (first : Proper outcome)
    (later : ∀ value, outcome = .ok value → Proper (next value)) : Proper (outcome >>= next) := by
  cases outcome with
  | ok value => exact later value rfl
  | error fault =>
    intro other same
    cases same
    exact first fault rfl

theorem map {outcome : Except Fault α} (change : α → β) (proper : Proper outcome) :
    Proper (change <$> outcome) := by
  cases outcome with
  | ok value => exact ok (change value)
  | error fault =>
    intro other same
    cases same
    exact proper fault rfl

theorem ensure {condition : Bool} {fault : Fault} (ends : fault.isEndless = false) :
    Proper (ensure condition fault) := by
  rw [Shading.ensure]
  split
  · exact ok ()
  · exact error ends

theorem ensureThen {condition : Bool} {fault : Fault} {next : Unit → Except Fault β}
    (ends : fault.isEndless = false) (later : condition = true → Proper (next ())) :
    Proper (Shading.ensure condition fault >>= next) := by
  refine bind (ensure ends) ?_
  intro value passed
  rw [Shading.ensure] at passed
  split at passed
  · rename_i holds
    exact later holds
  · cases passed

end Proper

/-- A checked outcome is a value only if the check passed. -/
theorem passed_of_ensure {condition : Bool} {fault : Fault} {next : Unit → Except Fault β}
    {result : β} (made : ensure condition fault >>= next = .ok result) :
    condition = true ∧ next () = .ok result := by
  cases condition with
  | true => exact ⟨rfl, made⟩
  | false => cases made

/-! ## Types -/

theorem addWords_proper (left right : Nat) : Proper (addWords left right) := by
  rw [addWords]
  split
  · exact .ok _
  · exact .error rfl

theorem multiplyWords_proper (left right : Nat) : Proper (multiplyWords left right) := by
  rw [multiplyWords]
  split
  · exact .ok _
  · exact .error rfl

mutual

theorem Ty.slotCount_proper : ∀ type : Ty, Proper type.slotCount
  | .array _ component (.sized count) => by
    rw [slotCount]
    exact .bind component.slotCount_proper fun each _ => multiplyWords_proper count.toNat each
  | .struct _ members => by
    rw [slotCount]
    exact memberSlots_proper 0 members
  | .array _ _ .unsized | .scalar .. | .literal .. | .vector .. | .matrix .. | .void _
  | .invalid _ | .handle _ | .enum _ | .generic .. => by
    simp only [slotCount]
    exact .ok _

theorem Ty.memberSlots_proper (counted : Nat) :
    ∀ members : List (MemberOf Ty), Proper (Ty.memberSlots counted members)
  | [] => by
    rw [memberSlots]
    exact .ok counted
  | ⟨_, _, type⟩ :: rest => by
    rw [memberSlots]
    apply Proper.bind type.slotCount_proper
    intro count _
    exact .bind (addWords_proper counted count) fun total _ => memberSlots_proper total rest

end

theorem Builtin.compound_proper (base : Ty) (columns rows : Nat) :
    Proper (Builtin.compound base columns rows) := by
  rw [compound]
  apply Proper.ensureThen rfl
  intro _
  split
  · exact .ok _
  · exact .error rfl

theorem productType?_proper (left right : Ty) (columns rows : Nat) (allowNarrowing : Bool) :
    Proper (productType? left right columns rows allowNarrowing) := by
  rw [productType?]
  split
  · rename_i component _
    exact .map some (Builtin.compound_proper component columns rows)
  · exact .ok none

namespace Operator

theorem arithmeticType?_proper (op : Operator) (left right : Ty) (allowNarrowing : Bool) :
    Proper (op.arithmeticType? left right allowNarrowing) := by
  rw [arithmeticType?]
  split
  · exact .ok none
  · split
    · exact productType?_proper left right _ _ allowNarrowing
    · exact .ok none
    · exact .ok _

theorem valueType?_proper (op : Operator) (left right : Ty) (allowNarrowing : Bool) :
    Proper (op.valueType? left right allowNarrowing) := by
  simp only [valueType?]
  split
  · exact .ok _
  · split
    · exact .ok _
    · split
      · exact .ok _
      · split
        · exact op.arithmeticType?_proper left right allowNarrowing
        · exact .ok none

theorem resultType?_proper (op : Operator) (left right : Ty) (allowNarrowing : Bool) :
    Proper (op.resultType? left right allowNarrowing) := by
  rw [resultType?.eq_def]
  split
  · rename_i applied _
    apply Proper.bind (applied.valueType?_proper left right allowNarrowing)
    intro result _
    cases result with
    | none => exact .ok none
    | some type => exact .ok _
  · split
    · exact .ok _
    · exact .ok _
    · exact op.valueType?_proper left right allowNarrowing

end Operator

/-! ## Expressions -/

namespace Expr

theorem ofInt_proper (span : Span) (value : Int64) (type : Ty) :
    Proper (ofInt span value type) := by
  exact .ensureThen rfl fun _ => .ok _

theorem ofDouble_proper (span : Span) (value : Double) (type : Ty) :
    Proper (ofDouble span value type) := by
  exact .ensureThen rfl fun _ => .ok _

theorem binaryOf_proper (context : Context) (left : Expr) (op : Operator) (right : Expr) :
    Proper (binaryOf context left op right) := by
  have result_proper := op.resultType?_proper left.type right.type context.allowNarrowing
  apply result_proper.bind
  intro result _
  cases result with
  | none => exact .error rfl
  | some type => exact .ok _

theorem memberOf_proper (base : Expr) (position : Nat) (owner : MemberOwner) :
    Proper (memberOf base position owner) := by
  rw [memberOf]
  split
  · exact .ok _
  · exact .error rfl

theorem callOf_proper (span : Span) (type : Ty) (function : Function) (arguments : List Expr) :
    Proper (callOf span type function arguments) := by
  exact .ensureThen rfl fun _ => .ok _

theorem elementType_proper (type : Ty) : Proper (elementType type) := by
  rw [elementType.eq_def]
  split
  · exact .ok _
  · exact .ok _
  · exact Builtin.compound_proper _ _ 1
  · exact .error rfl

theorem indexOf_proper (base position : Expr) : Proper (indexOf base position) := by
  apply Proper.ensureThen rfl
  intro _
  exact .bind (elementType_proper base.type) fun _ _ => .ok _

theorem postfixedOf_proper (operand : Expr) (op : Operator) : Proper (postfixedOf operand op) := by
  exact .ensureThen rfl fun _ => .ensureThen rfl fun _ => .ok _

theorem prefixedOf_proper (op : Operator) (operand : Expr) : Proper (prefixedOf op operand) := by
  exact .ensureThen rfl fun _ => .ok _

theorem swizzleOf_proper (base : Expr) (lanes : List Lane) : Proper (swizzleOf base lanes) := by
  apply Proper.ensureThen rfl
  intro _
  apply Proper.ensureThen rfl
  intro _
  exact .bind (Builtin.compound_proper base.type.component lanes.length 1) fun _ _ => .ok _

theorem ternaryOf_proper (test whenTrue whenFalse : Expr) :
    Proper (ternaryOf test whenTrue whenFalse) := by
  exact .ensureThen rfl fun _ => .ensureThen rfl fun _ => .ok _

theorem constructArray_proper (span : Span) (type : Ty) (arguments : List Expr) :
    Proper (constructArray span type arguments) := by
  rw [constructArray]
  split
  · exact .error rfl
  · split
    · exact .ensureThen rfl fun _ => .ensureThen rfl fun _ => .ok _
    · exact .ensureThen rfl fun _ => .ok _

theorem countSlots_proper (counted : Nat) (arguments : List Expr) :
    Proper (countSlots counted arguments) := by
  induction arguments generalizing counted with
  | nil => exact .ok counted
  | cons argument rest inductionHypothesis =>
    apply Proper.bind argument.type.slotCount_proper
    intro count _
    exact .bind (addWords_proper counted count) fun total _ => inductionHypothesis total

theorem constructCompound_proper (span : Span) (type : Ty) (arguments : List Expr) :
    Proper (constructCompound span type arguments) := by
  apply Proper.ensureThen rfl
  intro _
  have assembled : Proper (do
      let given ← countSlots 0 arguments
      let expected ← type.slotCount
      Shading.ensure (given == expected) (.slotCount given expected type.name)
      return Expr.construct ⟨span, type⟩ .compound arguments) := by
    apply Proper.bind (countSlots_proper 0 arguments)
    intro given _
    exact .bind type.slotCount_proper fun expected _ => .ensureThen rfl fun _ => .ok _
  split
  · split
    · exact .ok _
    · exact assembled
  · exact assembled

theorem constructStruct_proper (span : Span) (type : Ty) (arguments : List Expr) :
    Proper (constructStruct span type arguments) := by
  exact .ensureThen rfl fun _ => .ensureThen rfl fun _ => .ok _

theorem constructSingle_proper (span : Span) (flavour : Flavour) (type : Ty) (argument : Expr) :
    Proper (constructSingle span flavour type argument) := by
  rw [constructSingle.eq_def]
  split
  · apply Proper.ensureThen rfl
    intro _
    split
    · exact .ok _
    · dsimp only
      split
      · exact .ok _
      · exact .ok _
  · exact .ensureThen rfl fun _ => .ok _
  · apply Proper.ensureThen rfl
    intro _
    split
    · exact .ok _
    · exact .ok _
  · apply Proper.ensureThen rfl
    intro _
    split
    · exact .ok _
    · split
      · exact .ok _
      · exact .ok _
  · apply Proper.ensureThen rfl
    intro _
    split
    · exact .ok _
    · exact .ensureThen rfl fun _ => .ok _

theorem constructOf_proper (span : Span) (flavour : Flavour) (type : Ty) (arguments : List Expr) :
    Proper (constructOf span flavour type arguments) := by
  rw [constructOf.eq_def]
  split
  · exact constructArray_proper span type arguments
  · exact constructCompound_proper span type arguments
  · exact constructStruct_proper span type arguments
  · split
    · exact constructSingle_proper span flavour type _
    · exact .error rfl

end Expr

/-! ## Statements, elements and symbols -/

namespace Stmt

theorem ensureTest_proper (context : String) (test : Expr) : Proper (ensureTest context test) := by
  exact .ensure rfl

theorem doLoopOf_proper (body : Stmt) (test : Expr) : Proper (doLoopOf body test) := by
  exact .bind (ensureTest_proper "do" test) fun _ _ => .ok _

theorem forLoopOf_proper (initializer : Option Stmt) (test next : Option Expr) (body : Stmt)
    (table? : Option TableId) : Proper (forLoopOf initializer test next body table?) := by
  cases test with
  | none => exact .ok _
  | some test => exact .bind (ensureTest_proper "for" test) fun _ _ => .ok _

theorem ifElseOf_proper (isStatic : Bool) (test : Expr) (whenTrue : Stmt)
    (whenFalse : Option Stmt) : Proper (ifElseOf isStatic test whenTrue whenFalse) := by
  exact .bind (ensureTest_proper "if" test) fun _ _ => .ok _

theorem switchOf_proper (isStatic : Bool) (value : Expr) (cases : List SwitchCase)
    (table? : Option TableId) : Proper (switchOf isStatic value cases table?) := by
  exact .ensureThen rfl fun _ => .ok _

end Stmt

theorem Store.attachInitial_proper (store : Store) (target : Variable) (value : Expr) :
    Proper (store.attachInitial target value) := by
  rw [attachInitial]
  split
  · exact .error rfl
  · exact .ok _

theorem Store.define_proper (store : Store) (function : Function) (definition : Nat) :
    Proper (store.define function definition) := by
  rw [define]
  split
  · exact .error rfl
  · exact .ok _

theorem Declaration.make_proper (store : Store) (target : Variable) (baseType : Ty)
    (arraySize : Int32) (value? : Option Expr) :
    Proper (make store target baseType arraySize value?) := by
  cases value? with
  | none => exact .ok _
  | some value => exact .bind (store.attachInitial_proper target value) fun _ _ => .ok _

theorem Element.defineFunction_proper (store : Store) (declaration : Function) (builtin : Bool)
    (body : Stmt) (referenced : List Function) :
    Proper (defineFunction store declaration builtin body referenced) := by
  exact .bind (store.fresh.2.define_proper declaration store.nextId) fun _ _ => .ok _

theorem BlockMember.ofIndex_proper (id : Nat) (span : Span) (owner : Variable) (index : Nat) :
    Proper (ofIndex id span owner index) := by
  rw [ofIndex]
  split
  · exact .ok _
  · exact .error rfl

theorem OverloadSet.ofFunctions_proper (id : Nat) (functions : List Function) :
    Proper (ofFunctions id functions) := by
  cases functions with
  | nil => exact .error rfl
  | cons first others => exact .ok _

namespace Symbol

theorem asType_proper (symbol : Symbol) : Proper symbol.asType := by
  cases symbol with
  | type => exact .ok _
  | _ => exact .error rfl

theorem asVariable_proper (symbol : Symbol) : Proper symbol.asVariable := by
  cases symbol with
  | var => exact .ok _
  | _ => exact .error rfl

theorem asFunction_proper (symbol : Symbol) : Proper symbol.asFunction := by
  cases symbol with
  | function => exact .ok _
  | _ => exact .error rfl

end Symbol

end Shading
