import Shading.Proofs.Decode.Session

/-!
Walks through the decoders. A `Walk` is a property of steps that is kept by the ways in which
decoders are put together, so that it holds of every decoder as soon as it holds of symbols and of
the places where initial values are attached. Decoders are walked through once here. Main statement:
`Walk.call`.
-/

namespace Shading.Decode

variable {α β : Type} {context : Context} {holds : ∀ {α : Type}, Decode α → Prop}

/-- A property of steps that every way of putting decoders together keeps. -/
structure Walk (holds : ∀ {α : Type}, Decode α → Prop) : Prop where
  pure : ∀ {α : Type} (value : α), holds (Pure.pure value : Decode α)
  throw : ∀ {α : Type} (fault : Fault), holds (throw fault : Decode α)
  lift : ∀ {α : Type} (outcome : Except Fault α), holds (liftM outcome : Decode α)
  current : holds (get : Decode Decoder)
  next : ∀ {α : Type} {read : Read α}, read.Forward → holds (Decode.next read)
  after : ∀ {α β : Type} {first : Decode α} {next : α → Decode β}, holds first →
    (∀ value, holds (next value)) → holds (first >>= next)
  bindName : ∀ (table : TableId) (symbol : Symbol), holds (changeStore (·.bind table symbol))
  /-- A new table is active for a while. -/
  insideNew : ∀ {α β : Type} (inherit : Bool) {content : TableId → Decode α}
    {rest : TableId → α → Decode β}, (∀ id, holds (content id)) →
    (∀ id value, holds (rest id value)) →
    holds (openTable inherit >>= fun id => withActive id (content id) >>= rest id)
  /-- A table that was decoded just before is active for a while. -/
  insideDecoded : ∀ {α : Type} {content : Option TableId → Decode α}, holds (table true) →
    (∀ table?, holds (content table?)) →
    holds (table true >>= fun table? => within table? (content table?))
  defineFunction : ∀ (declaration : Function) (body : Stmt) (referenced : List Function),
    holds (do
      let (element, store) ←
        Element.defineFunction (← get).store declaration true body referenced
      changeStore fun _ => store
      return element)
  holding : ∀ {α : Type} {step : Decode α} (element : Element), holds step →
    holds (Decode.holding element step)

namespace Walk

variable (walk : Walk holds)
include walk

/-! ## Putting steps together -/

theorem map {step : Decode α} (each : holds step) (change : α → β) :
    holds (change <$> step) := by
  rw [map_eq_pure_bind]
  exact walk.after each fun value => walk.pure (change value)

theorem times {step : Decode α} (each : holds step) (count : Nat) :
    holds (Decode.times count step) := by
  induction count with
  | zero => exact walk.pure []
  | succ count inductionHypothesis =>
    refine walk.after each fun value => ?_
    exact walk.after inductionHypothesis fun values => walk.pure (value :: values)

theorem present {what : String} {step : Decode (Option α)} (each : holds step) :
    holds (Decode.present what step) := by
  refine walk.after each fun value? => ?_
  cases value? with
  | none => exact walk.throw _
  | some value => exact walk.pure value

theorem mapM {γ : Type} {each : γ → Decode α} (members : List γ)
    (all : ∀ member ∈ members, holds (each member)) : holds (members.mapM each) := by
  induction members with
  | nil =>
    rw [List.mapM_nil]
    exact walk.pure []
  | cons member rest inductionHypothesis =>
    rw [List.mapM_cons]
    refine walk.after (all member List.mem_cons_self) fun value => ?_
    have others := inductionHypothesis fun other inRest => all other (List.mem_cons_of_mem _ inRest)
    exact walk.after others fun values => walk.pure (value :: values)

theorem nesting : holds nesting :=
  walk.after walk.current fun _ => walk.pure _

/-! ## Symbols and tables -/

section Symbols

variable (symbol : holds symbol)
include symbol

theorem type : holds type :=
  walk.after symbol fun _ => walk.lift _

theorem targetVariable : holds targetVariable :=
  walk.after symbol fun _ => walk.lift _

theorem function : holds function :=
  walk.after symbol fun _ => walk.lift _

omit symbol in
theorem bindReference (table : TableId) (decoded : List Symbol) :
    holds (bindReference table decoded) := by
  refine walk.after (walk.next Read.u16_forward) fun index => ?_
  split
  · exact walk.bindName table _
  · exact walk.throw _

theorem table (inherit : Bool) : holds (table inherit) := by
  refine walk.after (walk.next Read.command_forward) fun tag => ?_
  cases tag with
  | absent => exact walk.pure none
  | symbolTable =>
    refine walk.after (walk.next Read.u16_forward) fun count => ?_
    refine walk.insideNew inherit (fun id => ?_) fun id _ => walk.pure (some id)
    refine walk.after (walk.times symbol count.toNat) fun decoded => ?_
    refine walk.after (walk.next Read.u16_forward) fun references => ?_
    exact walk.map (walk.times (walk.bindReference id decoded) references.toNat) _
  | _ => exact walk.throw _

/-! ## Expressions -/

omit symbol in
theorem arguments {nested : Decode (Option Expr)} (each : holds nested) :
    holds (arguments nested) :=
  walk.after (walk.next Read.u8_forward) fun count =>
    walk.times (walk.present each) count.toNat

theorem constructor {nested : Decode (Option Expr)} (each : holds nested)
    (flavour : Flavour) : holds (constructor nested flavour) := by
  refine walk.after (walk.type symbol) fun type => ?_
  exact walk.after (walk.arguments each) fun values => walk.lift _

theorem exprRecord {nested : Decode (Option Expr)} (each : holds nested)
    (tag : Command) : holds (exprRecord context nested tag) := by
  cases tag with
  | binary =>
    refine walk.after (walk.present each) fun left => ?_
    refine walk.after (walk.next Read.operator_forward) fun op => ?_
    exact walk.after (walk.present each) fun right => walk.lift _
  | boolLiteral => exact walk.after (walk.next Read.bool_forward) fun _ => walk.pure _
  | constructorArray => exact walk.constructor symbol each .array
  | constructorCompound => exact walk.constructor symbol each .compound
  | constructorCompoundCast => exact walk.constructor symbol each .compoundCast
  | constructorDiagonalMatrix => exact walk.constructor symbol each .diagonalMatrix
  | constructorMatrixResize => exact walk.constructor symbol each .matrixResize
  | constructorScalarCast => exact walk.constructor symbol each .scalarCast
  | constructorSplat => exact walk.constructor symbol each .splat
  | constructorStruct => exact walk.constructor symbol each .struct
  | fieldAccess =>
    refine walk.after (walk.present each) fun base => ?_
    refine walk.after (walk.next Read.u8_forward) fun index => ?_
    exact walk.after (walk.next Read.memberOwner_forward) fun owner => walk.lift _
  | floatLiteral =>
    refine walk.after (walk.type symbol) fun type => ?_
    exact walk.after (walk.next Read.u32_forward) fun bits => walk.lift _
  | callExpr =>
    refine walk.after (walk.type symbol) fun type => ?_
    refine walk.after (walk.function symbol) fun function => ?_
    exact walk.after (walk.arguments each) fun values => walk.lift _
  | indexExpr =>
    refine walk.after (walk.present each) fun base => ?_
    exact walk.after (walk.present each) fun position => walk.lift _
  | intLiteral =>
    refine walk.after (walk.type symbol) fun type => ?_
    exact walk.after (walk.next Read.s32_forward) fun value => walk.lift _
  | postfixExpr =>
    refine walk.after (walk.next Read.operator_forward) fun op => ?_
    exact walk.after (walk.present each) fun operand => walk.lift _
  | prefixExpr =>
    refine walk.after (walk.next Read.operator_forward) fun op => ?_
    exact walk.after (walk.present each) fun operand => walk.lift _
  | setting => exact walk.after (walk.next Read.string_forward) fun _ => walk.pure _
  | swizzle =>
    refine walk.after (walk.present each) fun base => ?_
    refine walk.after (walk.next Read.u8_forward) fun count => ?_
    have lanes := walk.times (walk.next Read.lane_forward) count.toNat
    exact walk.after lanes fun lanes => walk.lift _
  | ternary =>
    refine walk.after (walk.present each) fun test => ?_
    refine walk.after (walk.present each) fun whenTrue => ?_
    exact walk.after (walk.present each) fun whenFalse => walk.lift _
  | varReference =>
    refine walk.after (walk.targetVariable symbol) fun target => ?_
    exact walk.after (walk.next Read.refKind_forward) fun use => walk.pure _
  | _ => exact walk.throw _

theorem exprWithin (bound : Nat) : holds (exprWithin context bound) := by
  induction bound with
  | zero => exact walk.throw _
  | succ bound inductionHypothesis =>
    refine walk.after (walk.next Read.command_forward) fun tag => ?_
    split
    · exact walk.pure none
    · exact walk.after (walk.exprRecord symbol inductionHypothesis tag) fun _ =>
        walk.pure _

theorem expr : holds (expr context) :=
  walk.after walk.nesting fun bound => walk.exprWithin symbol bound

/-! ## Initial values -/

section Initial

variable (declare : ∀ (target : Variable) (baseType : Ty) (arraySize : Int32)
  (value? : Option Expr), holds (do
    let (declaration, store) ← Declaration.make (← get).store target baseType arraySize value?
    changeStore fun _ => store
    return declaration))
include declare

theorem declaration : holds (declaration context) := by
  refine walk.after (walk.targetVariable symbol) fun target => ?_
  refine walk.after (walk.type symbol) fun baseType => ?_
  refine walk.after (walk.next Read.s8_forward) fun arraySize => ?_
  exact walk.after (walk.expr symbol) fun value? =>
    declare target baseType arraySize.toInt32 value?

omit symbol in
theorem enumerator (enumName : String) (found : Symbol) : holds (enumerator enumName found) := by
  cases found with
  | var target =>
    refine walk.after (walk.next Read.s32_forward) fun value => ?_
    exact declare target target.type 0 _
  | _ => exact walk.throw _

theorem enumElement : holds enumElement := by
  refine walk.after (walk.next Read.string_forward) fun name => ?_
  refine walk.after (walk.table symbol false) fun table? => ?_
  cases table? with
  | none => exact walk.throw _
  | some id =>
    refine walk.after walk.current fun decoder => ?_
    have enumerators := walk.mapM (decoder.store.owned id) fun found _ =>
      walk.enumerator declare name found
    exact walk.after enumerators fun declarations => walk.pure _

end Initial

/-! ## Statements -/

theorem switchCase {nested : Decode (Option Stmt)} (each : holds nested) :
    holds (switchCase context nested) := by
  refine walk.after (walk.expr symbol) fun value? => ?_
  exact walk.after (walk.present each) fun body => walk.pure _

section Declarations

variable (declaration : holds (Decode.declaration context))
include declaration

theorem stmtRecord {nested : Decode (Option Stmt)} (each : holds nested)
    (tag : Command) : holds (stmtRecord context nested tag) := by
  have expr : holds (Decode.expr context) := walk.expr symbol
  cases tag with
  | blockStmt =>
    refine walk.insideDecoded (walk.table symbol true) fun table? => ?_
    refine walk.after (walk.next Read.u8_forward) fun count => ?_
    refine walk.after (walk.times (walk.present each) count.toNat) fun statements => ?_
    exact walk.after (walk.next Read.bool_forward) fun braces => walk.pure _
  | breakStmt => exact walk.pure _
  | continueStmt => exact walk.pure _
  | discardStmt => exact walk.pure _
  | doStmt =>
    refine walk.after (walk.present each) fun body => ?_
    exact walk.after (walk.present expr) fun test => walk.lift _
  | exprStmt => exact walk.after (walk.present expr) fun _ => walk.pure _
  | forStmt =>
    refine walk.after each fun initializer => ?_
    refine walk.after expr fun test => ?_
    refine walk.after expr fun next => ?_
    refine walk.after (walk.present each) fun body => ?_
    exact walk.after (walk.table symbol true) fun table? => walk.lift _
  | ifStmt =>
    refine walk.after (walk.next Read.bool_forward) fun isStatic => ?_
    refine walk.after (walk.present expr) fun test => ?_
    refine walk.after (walk.present each) fun whenTrue => ?_
    exact walk.after each fun whenFalse => walk.lift _
  | inlineMarker => exact walk.after (walk.function symbol) fun _ => walk.pure _
  | returnStmt => exact walk.after expr fun _ => walk.pure _
  | switchStmt =>
    refine walk.after (walk.next Read.bool_forward) fun isStatic => ?_
    refine walk.insideDecoded (walk.table symbol true) fun table? => ?_
    refine walk.after (walk.present expr) fun value => ?_
    refine walk.after (walk.next Read.u8_forward) fun count => ?_
    have entry : holds (Decode.switchCase context nested) :=
      walk.switchCase symbol each
    exact walk.after (walk.times entry count.toNat) fun cases => walk.lift _
  | declaration => exact walk.after declaration fun _ => walk.pure _
  | _ => exact walk.throw _

theorem stmtWithin (bound : Nat) : holds (stmtWithin context bound) := by
  induction bound with
  | zero => exact walk.throw _
  | succ bound inductionHypothesis =>
    refine walk.after (walk.next Read.command_forward) fun tag => ?_
    split
    · exact walk.pure none
    · exact walk.after (walk.stmtRecord symbol declaration inductionHypothesis tag) fun _ =>
        walk.pure _

theorem stmt : holds (stmt context) :=
  walk.after walk.nesting fun bound => walk.stmtWithin symbol declaration bound

/-! ## Elements -/

theorem functionElement : holds (functionElement context) := by
  refine walk.after (walk.function symbol) fun function => ?_
  refine walk.after (walk.present (walk.stmt symbol declaration)) fun body => ?_
  refine walk.after (walk.next Read.u8_forward) fun count => ?_
  refine walk.after (walk.times (walk.function symbol) count.toNat) fun referenced => ?_
  exact walk.defineFunction function body referenced

omit declaration in
theorem interfaceElement : holds interfaceElement := by
  refine walk.after (walk.targetVariable symbol) fun target => ?_
  refine walk.after (walk.next Read.string_forward) fun name => ?_
  refine walk.after (walk.next Read.string_forward) fun instanceName => ?_
  exact walk.after (walk.next Read.s8_forward) fun arraySize => walk.pure _

theorem globalElement : holds (globalElement context) := by
  refine walk.after (walk.stmt symbol declaration) fun statement? => ?_
  split
  · exact walk.pure _
  · exact walk.throw _
  · exact walk.throw _

variable (enumElement : holds Decode.enumElement)
include enumElement

theorem element : holds (element context) := by
  refine walk.after (walk.next Read.command_forward) fun tag => ?_
  split
  · exact walk.after enumElement fun _ => walk.pure _
  · exact walk.after (walk.functionElement symbol declaration) fun _ => walk.pure _
  · exact walk.after (walk.interfaceElement symbol) fun _ => walk.pure _
  · exact walk.after (walk.globalElement symbol declaration) fun _ => walk.pure _
  · exact walk.after (walk.type symbol) fun _ => walk.pure _
  · exact walk.pure none
  · exact walk.throw _

theorem elementsWithin (bound : Nat) : holds (elementsWithin context bound) := by
  induction bound with
  | zero => exact walk.throw _
  | succ bound inductionHypothesis =>
    refine walk.after (walk.element symbol declaration enumElement) fun element? => ?_
    cases element? with
    | none => exact walk.pure []
    | some first =>
      exact walk.after (walk.holding first inductionHypothesis) fun others => walk.pure _

theorem elements : holds (elements context) := by
  refine walk.after (walk.next Read.command_forward) fun tag => ?_
  split
  · exact walk.after walk.nesting fun bound =>
      walk.elementsWithin symbol declaration enumElement bound
  · exact walk.throw _

/-! ## Calls -/

/-- A walk that holds of symbols, declarations and enums holds of every call. -/
theorem call (call : Call) : holds (call.run context) := by
  cases call with
  | layout => exact walk.next Read.layout_forward
  | modifiers => exact walk.next Read.modifiers_forward
  | symbol => exact symbol
  | type => exact walk.type symbol
  | table inherit => exact walk.table symbol inherit
  | stmt => exact walk.stmt symbol declaration
  | expr => exact walk.expr symbol
  | element => exact walk.element symbol declaration enumElement
  | elements => exact walk.elements symbol declaration enumElement

end Declarations

end Symbols

end Walk

end Shading.Decode
