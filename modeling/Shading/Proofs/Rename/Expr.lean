import Shading.Decode.Symbol
import Shading.Expr.Construct
import Shading.Expr.Text
import Shading.Proofs.Rename.Type

/-!
New numbers in symbols and expressions. Symbols keep their names and their texts, and whatever
builds an expression builds the renamed expression from renamed parts.
-/

namespace Shading

open Renamable (rename rename_same)

variable {κ : Renaming}

instance : Renamable Variable where
  rename κ target :=
    { target with id := κ.symbols target.id, type := rename κ target.type }
  rename_same target := by
    rw [rename_same]
    rfl

instance : Renamable Function where
  rename κ function :=
    { function with
      id := κ.symbols function.id
      parameters := rename κ function.parameters
      returnType := rename κ function.returnType }
  rename_same function := by
    rw [rename_same, rename_same]
    rfl

instance : Renamable OverloadSet where
  rename κ set :=
    { id := κ.symbols set.id, first := rename κ set.first, others := rename κ set.others }
  rename_same set := by
    rw [rename_same, rename_same]
    rfl

theorem Variable.length_members_rename (target : Variable) :
    target.type.members.length = (rename κ target).type.members.length := by
  show _ = (rename κ target.type).members.length
  rw [Ty.members_rename, length_rename]

/-- Two fields of one owner are the same if their numbers and places are. -/
theorem BlockMember.eq_of_owner {field : BlockMember} {owner : Variable}
    (same : owner = field.owner) (inside : field.owner.type.members.length =
      owner.type.members.length) :
    BlockMember.mk field.id field.span owner (field.index.cast inside) = field := by
  subst same
  rfl

instance : Renamable BlockMember where
  rename κ field :=
    { id := κ.symbols field.id
      span := field.span
      owner := rename κ field.owner
      index := field.index.cast field.owner.length_members_rename }
  rename_same field := BlockMember.eq_of_owner (rename_same field.owner) _

namespace Symbol

def renamed (κ : Renaming) : Symbol → Symbol
  | type t => type (rename κ t)
  | var v => var (rename κ v)
  | function f => function (rename κ f)
  | overloads set => overloads (rename κ set)
  | member field => member (rename κ field)
  | synonym id span name target => synonym (κ.symbols id) span name (target.renamed κ)

theorem renamed_same (symbol : Symbol) : symbol.renamed .same = symbol := by
  induction symbol with
  | synonym id span name target inductionHypothesis =>
    rw [renamed, inductionHypothesis]
    rfl
  | _ => rw [renamed, rename_same]

end Symbol

instance : Renamable Symbol := ⟨Symbol.renamed, Symbol.renamed_same⟩

/-! ## Symbols -/

@[simp]
theorem Variable.type_rename (target : Variable) :
    (rename κ target).type = rename κ target.type := by
  rfl

theorem BlockMember.name_rename (field : BlockMember) : (rename κ field).name = field.name := by
  have members : (rename κ field).owner.type.members = rename κ field.owner.type.members :=
    Ty.members_rename field.owner.type
  have here : (rename κ field).owner.type.members[field.index.val]? =
      some (rename κ field.member) := by
    rw [members, getElem?_rename, BlockMember.member, Fin.getElem_fin,
      List.getElem?_eq_getElem field.index.isLt, rename_some]
  obtain ⟨_, same⟩ := List.getElem?_eq_some_iff.mp here
  show (rename κ field).owner.type.members[field.index.val].name = _
  rw [same]
  rfl

theorem BlockMember.rename_ofIndex (id : Nat) (span : Span) (owner : Variable) (index : Nat) :
    ofIndex (κ.symbols id) span (rename κ owner) index =
      rename κ (ofIndex id span owner index) := by
  have length := owner.length_members_rename (κ := κ)
  by_cases inside : index < owner.type.members.length
  · have stillInside : index < (rename κ owner).type.members.length := by omega
    rw [ofIndex, ofIndex, dif_pos inside, dif_pos stillInside]
    rfl
  · have stillOutside : ¬index < (rename κ owner).type.members.length := by omega
    rw [ofIndex, ofIndex, dif_neg inside, dif_neg stillOutside, ← length]
    show _ = Except.error (Fault.memberOutOfRange index owner.type.name _)
    rw [Variable.type_rename, Ty.name_rename]

theorem OverloadSet.rename_ofFunctions (id : Nat) (functions : List Function) :
    ofFunctions (κ.symbols id) (rename κ functions) = rename κ (ofFunctions id functions) := by
  cases functions <;> rfl

theorem Function.text_rename (function : Function) : (rename κ function).text = function.text := by
  have parameters : (rename κ function.parameters).map
        (fun parameter => s!"{parameter.type.displayName} {parameter.name}") =
      function.parameters.map fun parameter =>
        s!"{parameter.type.displayName} {parameter.name}" := by
    rw [rename_list, List.map_map]
    refine List.map_congr_left ?_
    intro parameter _
    show s!"{(rename κ parameter.type).displayName} {parameter.name}" = _
    rw [Ty.displayName_rename]
  show function.modifiers.lead ++
      s!"{(rename κ function.returnType).displayName} {function.name}(" ++
      ", ".intercalate ((rename κ function.parameters).map
        fun parameter => s!"{parameter.type.displayName} {parameter.name}") ++ ")" = _
  rw [parameters, Ty.displayName_rename]
  rfl

namespace Symbol

variable (symbol : Symbol)

@[simp]
theorem name_rename : (rename κ symbol).name = symbol.name := by
  cases symbol with
  | type t => exact Ty.name_rename t
  | member field => exact field.name_rename
  | _ => rfl

@[simp]
theorem kind_rename : (rename κ symbol).kind = symbol.kind := by
  cases symbol <;> rfl

theorem text_rename : (rename κ symbol).text = symbol.text := by
  cases symbol with
  | function f => exact f.text_rename
  | var v =>
    show s!"{(rename κ v.type).name} {v.name}" = _
    rw [Ty.name_rename]
    rfl
  | type t => exact Ty.name_rename t
  | member field => exact field.name_rename
  | _ => rfl

theorem rename_asType : (rename κ symbol).asType = rename κ symbol.asType := by
  cases symbol with
  | type t => rfl
  | member field =>
    show Except.error (Fault.wrongSymbol "a type" _ (rename κ field).name) = _
    rw [field.name_rename]
    rfl
  | _ => rfl

theorem rename_asVariable : (rename κ symbol).asVariable = rename κ symbol.asVariable := by
  cases symbol with
  | type t =>
    show Except.error (Fault.wrongSymbol "a variable" _ (rename κ t).name) = _
    rw [Ty.name_rename]
    rfl
  | member field =>
    show Except.error (Fault.wrongSymbol "a variable" _ (rename κ field).name) = _
    rw [field.name_rename]
    rfl
  | _ => rfl

theorem rename_asFunction : (rename κ symbol).asFunction = rename κ symbol.asFunction := by
  cases symbol with
  | type t =>
    show Except.error (Fault.wrongSymbol "a function" _ (rename κ t).name) = _
    rw [Ty.name_rename]
    rfl
  | member field =>
    show Except.error (Fault.wrongSymbol "a function" _ (rename κ field).name) = _
    rw [field.name_rename]
    rfl
  | _ => rfl

end Symbol

/-! ## Expressions -/

instance : Renamable Expr.Info where
  rename κ info := { info with type := rename κ info.type }
  rename_same info := by rw [rename_same]

namespace Expr

mutual

def renamed (κ : Renaming) : Expr → Expr
  | binary i left op right => binary (rename κ i) (left.renamed κ) op (right.renamed κ)
  | boolLiteral i value => boolLiteral (rename κ i) value
  | intLiteral i value => intLiteral (rename κ i) value
  | floatLiteral i value => floatLiteral (rename κ i) value
  | construct i flavour arguments => construct (rename κ i) flavour (renamedAll κ arguments)
  | member i base place owner => member (rename κ i) (base.renamed κ) place owner
  | call i function arguments => call (rename κ i) (rename κ function) (renamedAll κ arguments)
  | functionName i functions => functionName (rename κ i) (rename κ functions)
  | index i base position => index (rename κ i) (base.renamed κ) (position.renamed κ)
  | postfixed i operand op => postfixed (rename κ i) (operand.renamed κ) op
  | prefixed i op operand => prefixed (rename κ i) op (operand.renamed κ)
  | setting i name => setting (rename κ i) name
  | swizzle i base lanes => swizzle (rename κ i) (base.renamed κ) lanes
  | ternary i test whenTrue whenFalse =>
    ternary (rename κ i) (test.renamed κ) (whenTrue.renamed κ) (whenFalse.renamed κ)
  | typeName i value => typeName (rename κ i) (rename κ value)
  | reference i target use => reference (rename κ i) (rename κ target) use

def renamedAll (κ : Renaming) : List Expr → List Expr
  | [] => []
  | expr :: rest => expr.renamed κ :: renamedAll κ rest

end

mutual

theorem renamed_same (expr : Expr) : expr.renamed .same = expr := by
  cases expr with
  | binary i left op right => rw [renamed, rename_same, renamed_same left, renamed_same right]
  | boolLiteral i value => rw [renamed, rename_same]
  | intLiteral i value => rw [renamed, rename_same]
  | floatLiteral i value => rw [renamed, rename_same]
  | construct i flavour arguments => rw [renamed, rename_same, renamedAll_same arguments]
  | member i base place owner => rw [renamed, rename_same, renamed_same base]
  | call i function arguments =>
    rw [renamed, rename_same, rename_same, renamedAll_same arguments]
  | functionName i functions => rw [renamed, rename_same, rename_same]
  | index i base position =>
    rw [renamed, rename_same, renamed_same base, renamed_same position]
  | postfixed i operand op => rw [renamed, rename_same, renamed_same operand]
  | prefixed i op operand => rw [renamed, rename_same, renamed_same operand]
  | setting i name => rw [renamed, rename_same]
  | swizzle i base lanes => rw [renamed, rename_same, renamed_same base]
  | ternary i test whenTrue whenFalse =>
    rw [renamed, rename_same, renamed_same test, renamed_same whenTrue, renamed_same whenFalse]
  | typeName i value => rw [renamed, rename_same, rename_same]
  | reference i target use => rw [renamed, rename_same, rename_same]

theorem renamedAll_same (exprs : List Expr) : renamedAll .same exprs = exprs := by
  cases exprs with
  | nil => rfl
  | cons expr rest => rw [renamedAll, renamed_same expr, renamedAll_same rest]

end

end Expr

instance : Renamable Expr := ⟨Expr.renamed, Expr.renamed_same⟩

namespace Expr

variable (expr : Expr)

theorem renamedAll_eq (exprs : List Expr) : renamedAll κ exprs = rename κ exprs := by
  induction exprs with
  | nil => rfl
  | cons expr rest inductionHypothesis => rw [renamedAll, inductionHypothesis]; rfl

@[simp]
theorem type_rename : (rename κ expr).type = rename κ expr.type := by
  cases expr <;> rfl

@[simp]
theorem span_rename : (rename κ expr).span = expr.span := by
  cases expr <;> rfl

theorem rename_construct (span : Span) (type : Ty) (flavour : Flavour) (arguments : List Expr) :
    rename κ (construct ⟨span, type⟩ flavour arguments) =
      construct ⟨span, rename κ type⟩ flavour (rename κ arguments) := by
  show construct _ _ (renamedAll κ arguments) = _
  rw [renamedAll_eq]
  rfl

theorem rename_construct_single (span : Span) (type : Ty) (flavour : Flavour) (argument : Expr) :
    rename κ (construct ⟨span, type⟩ flavour [argument]) =
      construct ⟨span, rename κ type⟩ flavour [rename κ argument] := by
  exact rename_construct span type flavour [argument]

/-! ## Building -/

theorem rename_ofInt (span : Span) (value : Int64) (type : Ty) :
    ofInt span value (rename κ type) = rename κ (ofInt span value type) := by
  rw [ofInt, ofInt, rename_ensure_bind, Ty.isInteger_rename, Ty.name_rename]
  rfl

theorem rename_ofDouble (span : Span) (value : Double) (type : Ty) :
    ofDouble span value (rename κ type) = rename κ (ofDouble span value type) := by
  rw [ofDouble, ofDouble, rename_ensure_bind, Ty.isFloat_rename, Ty.name_rename]
  rfl

theorem rename_binaryOf (context : Context) (left : Expr) (op : Operator) (right : Expr) :
    binaryOf context (rename κ left) op (rename κ right) =
      rename κ (binaryOf context left op right) := by
  simp only [binaryOf, type_rename, span_rename, Operator.rename_resultType?, Ty.displayName_rename]
  cases op.resultType? left.type right.type context.allowNarrowing with
  | error fault => rfl
  | ok type? => cases type? <;> rfl

theorem rename_memberOf (base : Expr) (position : Nat) (owner : MemberOwner) :
    memberOf (rename κ base) position owner = rename κ (memberOf base position owner) := by
  simp only [memberOf, type_rename, Ty.members_rename, getElem?_rename, Ty.name_rename,
    span_rename]
  cases base.type.members[position]? <;> rfl

theorem rename_callOf (span : Span) (type : Ty) (function : Function) (arguments : List Expr) :
    callOf span (rename κ type) (rename κ function) (rename κ arguments) =
      rename κ (callOf span type function arguments) := by
  have parameters : (rename κ function).parameters.length = function.parameters.length :=
    length_rename function.parameters
  have same : rename κ (Expr.call ⟨span, type⟩ function arguments) =
      .call ⟨span, rename κ type⟩ (rename κ function) (rename κ arguments) := by
    show Expr.call _ _ (renamedAll κ arguments) = _
    rw [renamedAll_eq]
    rfl
  rw [callOf, callOf, rename_ensure_bind, length_rename, parameters, rename_pure, same]
  rfl

theorem rename_elementType (type : Ty) :
    elementType (rename κ type) = rename κ (elementType type) := by
  cases type with
  | matrix head component columns rows => exact Builtin.rename_compound component rows 1
  | array | vector => rfl
  | _ => exact congrArg (fun name => Except.error (Fault.notIndexable name)) (Ty.name_rename _)

theorem rename_indexOf (base position : Expr) :
    indexOf (rename κ base) (rename κ position) = rename κ (indexOf base position) := by
  rw [indexOf, indexOf, rename_ensure_bind]
  simp only [type_rename, span_rename, Ty.isInteger_rename, Ty.name_rename, rename_elementType]
  cases elementType base.type <;> rfl

theorem rename_postfixedOf (operand : Expr) (op : Operator) :
    postfixedOf (rename κ operand) op = rename κ (postfixedOf operand op) := by
  unfold postfixedOf
  simp only [rename_ensure_bind, type_rename, span_rename, Ty.component_rename,
    Ty.isNumber_rename, Ty.name_rename]
  rfl

theorem rename_prefixedOf (op : Operator) (operand : Expr) :
    prefixedOf op (rename κ operand) = rename κ (prefixedOf op operand) := by
  have takes : prefixTakes op (rename κ operand.type) = prefixTakes op operand.type := by
    simp only [prefixTakes, Ty.component_rename, Ty.isBoolean_rename, Ty.isInteger_rename,
      Ty.isNumber_rename]
  rw [prefixedOf, prefixedOf, rename_ensure_bind]
  simp only [type_rename, span_rename, takes, Ty.name_rename]
  rfl

theorem rename_swizzleOf (base : Expr) (lanes : List Lane) :
    swizzleOf (rename κ base) lanes = rename κ (swizzleOf base lanes) := by
  rw [swizzleOf, swizzleOf, rename_ensure_bind]
  simp only [rename_ensure_bind, type_rename, span_rename, Ty.isScalar_rename, Ty.isVector_rename,
    Ty.component_rename, Ty.name_rename, Builtin.rename_compound]
  cases Builtin.compound base.type.component lanes.length 1 <;> rfl

theorem rename_ternaryOf (test whenTrue whenFalse : Expr) :
    ternaryOf (rename κ test) (rename κ whenTrue) (rename κ whenFalse) =
      rename κ (ternaryOf test whenTrue whenFalse) := by
  rw [ternaryOf, ternaryOf, rename_ensure_bind]
  simp only [rename_ensure_bind, type_rename, span_rename, Ty.isBoolean_rename, Ty.equal_rename,
    Ty.name_rename]
  rfl

theorem rename_ofSetting (context : Context) (span : Span) (name : String) :
    rename κ (ofSetting context span name) = ofSetting context span name := by
  rw [ofSetting]
  split <;> rfl

theorem rename_ofVariable (span : Span) (target : Variable) (use : RefKind) :
    ofVariable span (rename κ target) use = rename κ (ofVariable span target use) := by
  rfl

/-! ## Constructor calls -/

@[simp]
theorem literalNumber?_rename : (rename κ expr).literalNumber? = expr.literalNumber? := by
  cases expr <;> rfl

@[simp]
theorem intLiteral?_rename : (rename κ expr).intLiteral? = expr.intLiteral? := by
  cases expr <;> rfl

theorem rename_castLiteral? (span : Span) (type : Ty) (literal : Expr) :
    castLiteral? span (rename κ type) (rename κ literal) =
      rename κ (castLiteral? span type literal) := by
  simp only [castLiteral?, literalNumber?_rename, intLiteral?_rename, Ty.isBoolean_rename,
    Ty.isInteger_rename, Ty.isFloat_rename]
  cases literal.literalNumber? with
  | none => rfl
  | some number =>
    dsimp only
    repeat' split
    all_goals rfl

theorem rename_splatScalar? : (rename κ expr).splatScalar? = rename κ expr.splatScalar? := by
  cases expr with
  | construct i flavour arguments =>
    rw [rename_construct]
    cases flavour with
    | splat => cases arguments <;> rfl
    | _ => rfl
  | _ => rfl

theorem all_elements_rename (type : Ty) (arguments : List Expr) :
    ((rename κ arguments).all fun argument => argument.type == (rename κ type).component) =
      arguments.all fun argument => argument.type == type.component := by
  rw [rename_list, List.all_map]
  congr 1
  funext argument
  simp only [Function.comp_apply, type_rename, Ty.component_rename, Ty.equal_rename]

theorem rename_constructArray (span : Span) (type : Ty) (arguments : List Expr) :
    constructArray span (rename κ type) (rename κ arguments) =
      rename κ (constructArray span type arguments) := by
  simp only [constructArray, Ty.arraySize?_rename, length_rename, Ty.name_rename,
    all_elements_rename]
  cases type.arraySize? with
  | none => rfl
  | some size =>
    dsimp only
    cases size.count? with
    | none =>
      dsimp only
      rw [rename_ensure_bind, rename_pure, rename_construct]
      rfl
    | some count =>
      dsimp only
      rw [rename_ensure_bind, rename_ensure_bind, rename_pure, rename_construct]
      rfl

theorem rename_countSlots (counted : Nat) (arguments : List Expr) :
    countSlots counted (rename κ arguments) = countSlots counted arguments := by
  induction arguments generalizing counted with
  | nil => rfl
  | cons argument rest inductionHypothesis =>
    rw [rename_cons, countSlots, countSlots, type_rename, Ty.slotCount_rename]
    simp only [inductionHypothesis]

/-- A vector or matrix from pieces that have as many slots together. -/
def assembled (span : Span) (type : Ty) (pieces : List Expr) : Except Fault Expr := do
  let given ← countSlots 0 pieces
  let expected ← type.slotCount
  ensure (given == expected) (.slotCount given expected type.name)
  return .construct ⟨span, type⟩ .compound pieces

theorem rename_assembled (span : Span) (type : Ty) (pieces : List Expr) :
    assembled span (rename κ type) (rename κ pieces) = rename κ (assembled span type pieces) := by
  simp only [assembled, rename_countSlots, Ty.slotCount_rename, Ty.name_rename]
  cases countSlots 0 pieces with
  | error fault => rfl
  | ok given =>
    cases type.slotCount with
    | error fault => rfl
    | ok expected =>
      show ensure _ _ >>= _ = rename κ (ensure _ _ >>= _)
      rw [rename_ensure_bind, rename_pure, rename_construct]
      rfl

theorem rename_constructCompound (span : Span) (type : Ty) (arguments : List Expr) :
    constructCompound span (rename κ type) (rename κ arguments) =
      rename κ (constructCompound span type arguments) := by
  have many := rename_assembled (κ := κ) span type arguments
  unfold assembled at many
  unfold constructCompound
  simp only [rename_ensure_bind, Ty.isVector_rename, Ty.isMatrix_rename, Ty.name_rename] at many ⊢
  congr 1
  funext _
  cases arguments with
  | nil => exact many
  | cons argument rest =>
    cases rest with
    | cons second others => exact many
    | nil =>
      simp only [rename_cons, rename_nil, type_rename, Ty.equal_rename] at many ⊢
      split
      · rfl
      · exact many

theorem rename_constructStruct (span : Span) (type : Ty) (arguments : List Expr) :
    constructStruct span (rename κ type) (rename κ arguments) =
      rename κ (constructStruct span type arguments) := by
  simp only [constructStruct, rename_ensure_bind, Ty.isStruct_rename, Ty.members_rename,
    length_rename, Ty.name_rename, rename_pure, rename_construct]
  rfl

theorem rename_compoundCast (span : Span) (type : Ty) (argument : Expr) :
    compoundCast span (rename κ type) (rename κ argument) =
      rename κ (compoundCast span type argument) := by
  have folded : ((rename κ argument).splatScalar?.bind fun scalar =>
        castLiteral? scalar.span (rename κ type).component scalar) =
      rename κ (argument.splatScalar?.bind fun scalar =>
        castLiteral? scalar.span type.component scalar) := by
    rw [rename_splatScalar?]
    cases argument.splatScalar? with
    | none => rfl
    | some scalar =>
      show castLiteral? (rename κ scalar).span (rename κ type).component (rename κ scalar) = _
      rw [span_rename, Ty.component_rename, rename_castLiteral?]
      rfl
  unfold compoundCast
  simp only [rename_ensure_bind, Ty.isVector_rename, Ty.isMatrix_rename, type_rename,
    Ty.columns_rename, Ty.rows_rename, Ty.name_rename, Ty.equal_rename, folded]
  congr 1
  funext _
  split
  · rfl
  · cases argument.splatScalar?.bind fun scalar =>
      castLiteral? scalar.span type.component scalar with
    | none => exact congrArg Except.ok (rename_construct_single span type _ _).symm
    | some literal => exact congrArg Except.ok (rename_construct_single span type _ _).symm

theorem rename_scalarCast (span : Span) (type : Ty) (argument : Expr) :
    scalarCast span (rename κ type) (rename κ argument) =
      rename κ (scalarCast span type argument) := by
  unfold scalarCast
  simp only [rename_ensure_bind, Ty.isScalar_rename, type_rename, Ty.name_rename,
    Ty.equal_rename, rename_castLiteral?]
  congr 1
  funext _
  split
  · rfl
  · cases castLiteral? span type argument with
    | none => exact congrArg Except.ok (rename_construct_single span type _ _).symm
    | some literal => rfl

/-- The flavours that take one argument build renamed nodes of it. -/
theorem rename_constructSingle (span : Span) (flavour : Flavour) (type : Ty) (argument : Expr) :
    constructSingle span flavour (rename κ type) (rename κ argument) =
      rename κ (constructSingle span flavour type argument) := by
  have diagonal : diagonalMatrix span (rename κ type) (rename κ argument) =
      rename κ (diagonalMatrix span type argument) := by
    simp only [diagonalMatrix, rename_ensure_bind, Ty.isMatrix_rename, type_rename,
      Ty.isScalar_rename, Ty.name_rename, rename_pure, rename_construct]
    rfl
  have resize : matrixResize span (rename κ type) (rename κ argument) =
      rename κ (matrixResize span type argument) := by
    simp only [matrixResize, rename_ensure_bind, Ty.isMatrix_rename, type_rename,
      Ty.equal_rename, Ty.name_rename]
    congr 1
    funext _
    split
    · rfl
    · exact congrArg Except.ok (rename_construct_single span type _ _).symm
  have splats : splat span (rename κ type) (rename κ argument) =
      rename κ (splat span type argument) := by
    simp only [splat, rename_ensure_bind, type_rename, Ty.isScalar_rename, Ty.isVector_rename,
      Ty.name_rename]
    congr 1
    funext _
    split
    · rfl
    · rw [rename_ensure_bind, rename_pure, rename_construct]
      rfl
  cases flavour with
  | compoundCast => exact rename_compoundCast span type argument
  | diagonalMatrix => exact diagonal
  | matrixResize => exact resize
  | scalarCast => exact rename_scalarCast span type argument
  | _ => exact splats

theorem rename_constructOf (span : Span) (flavour : Flavour) (type : Ty)
    (arguments : List Expr) :
    constructOf span flavour (rename κ type) (rename κ arguments) =
      rename κ (constructOf span flavour type arguments) := by
  cases flavour with
  | array => exact rename_constructArray span type arguments
  | compound => exact rename_constructCompound span type arguments
  | struct => exact rename_constructStruct span type arguments
  | _ =>
    cases arguments with
    | nil => rfl
    | cons argument rest =>
      cases rest with
      | nil => simp only [constructOf, rename_cons, rename_nil, rename_constructSingle]
      | cons second others =>
        have count : (rename κ others).length = others.length := length_rename others
        exact congrArg (fun count => Except.error (Fault.singleArgument _ (count + 1 + 1))) count

/-! ## Text -/

mutual

theorem text_renamed (expr : Expr) : (expr.renamed κ).text = expr.text := by
  cases expr with
  | binary i left op right =>
    simp only [renamed, text, text_renamed left, text_renamed right]
  | construct i flavour arguments =>
    have head : (rename κ i).type.displayName = i.type.displayName := Ty.displayName_rename i.type
    simp only [renamed, text, texts_renamed arguments, head]
  | member i base place owner =>
    have type : (base.renamed κ).type = rename κ base.type := type_rename base
    simp only [renamed, text, text_renamed base, type, Ty.members_rename, getElem?_rename]
    cases base.type.members[place]? <;> rfl
  | call i function arguments =>
    simp only [renamed, text, texts_renamed arguments]
    rfl
  | functionName i functions => cases functions <;> rfl
  | index i base position =>
    simp only [renamed, text, text_renamed base, text_renamed position]
  | postfixed i operand op => simp only [renamed, text, text_renamed operand]
  | prefixed i op operand => simp only [renamed, text, text_renamed operand]
  | swizzle i base lanes => simp only [renamed, text, text_renamed base]
  | ternary i test whenTrue whenFalse =>
    simp only [renamed, text, text_renamed test, text_renamed whenTrue, text_renamed whenFalse]
  | typeName i value => exact Ty.displayName_rename value
  | _ => rfl

theorem texts_renamed (exprs : List Expr) : texts (renamedAll κ exprs) = texts exprs := by
  cases exprs with
  | nil => rfl
  | cons expr rest =>
    simp only [renamedAll, texts, text_renamed expr, texts_renamed rest]

end

@[simp]
theorem text_rename : (rename κ expr).text = expr.text := by
  exact text_renamed expr

end Expr

end Shading
