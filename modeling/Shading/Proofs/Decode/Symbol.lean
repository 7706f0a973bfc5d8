import Shading.Proofs.Decode.Account
import Shading.Proofs.Decode.Runs

/-!
The accounts of symbols and symbol tables. A decoded symbol is known: it was created since the
origin and a table owns it, or it is a type that a name stood for then.
-/

namespace Shading.Decode

open Stepping

variable {origin : Origin} {level : Level} {bound : Nat} {α : Type}

/-- Nothing is asked of the session before. -/
abbrev anywhere : Decoder → Prop := fun _ => True

/-! ## The registry -/

theorem register_accounts (id : UInt16) (symbol : Symbol) :
    Accounts origin .symbol bound (fun decoder => origin.Knows decoder.store symbol)
      (register id symbol) fun found after => origin.Knows after.store found := by
  intro decoder ready known
  have grown : History origin .symbol decoder []
      { decoder with registry := grown decoder.registry id.toNat } := .change (.grow id.toNat)
  rw [register, bind_ok (modify_apply _ decoder), bind_ok (get_apply _)]
  dsimp only
  cases taken : (Decode.grown decoder.registry id.toNat)[id.toNat]?.join with
  | some other => exact .fault grown rfl
  | none => exact .value (grown.andThen (.change (.register taken known))) known

theorem registered_accounts (id : UInt16) :
    Accounts origin .symbol bound anywhere (registered id)
      fun symbol after => origin.Knows after.store symbol := by
  intro decoder ready _
  rw [registered, bind_ok (get_apply decoder)]
  cases found : decoder.registry[id.toNat]?.join with
  | none => exact .fault (.nothing _ decoder) rfl
  | some symbol =>
    exact .value (.nothing _ decoder) (ready.sound.registered id.toNat symbol found)

theorem systemType_accounts (name : String) :
    Accounts origin .symbol bound anywhere (systemType name)
      fun type after => origin.Knows after.store (.type type) := by
  intro decoder ready _
  rw [systemType, bind_ok (get_apply decoder)]
  cases found : decoder.store.find? decoder.active name with
  | none => exact .fault (.nothing _ decoder) rfl
  | some symbol =>
    cases symbol with
    | type type =>
      obtain ⟨holder, bound⟩ := Store.exists_findLocal?_of_find? found
      exact .value (.nothing _ decoder) (ready.sound.bound holder name type bound)
    | _ => exact .fault (.nothing _ decoder) rfl

/-! ## New symbols -/

/-- A new symbol is made from a new id, and the active table adopts it. -/
theorem create_accounts {γ : Type} {make : Nat → Except Fault γ} {symbolOf : γ → Symbol}
    {more : γ → Decode α} {post : α → Decoder → Prop} (proper : ∀ id, Proper (make id))
    (labelled : ∀ id value, make id = .ok value → (symbolOf value).id = id)
    (typed : ∀ id value, make id = .ok value →
      ∀ type, symbolOf value = .type type → origin.types type)
    (later : ∀ value, Accounts origin .symbol bound
      (fun decoder => origin.Knows decoder.store (symbolOf value)) (more value) post) :
    Accounts origin .symbol bound anywhere
      (freshId >>= fun id => liftM (make id) >>= fun value => adopt (symbolOf value) >>= fun _ =>
        more value) post := by
  intro decoder ready _
  have fresh : freshId decoder =
      (.ok decoder.store.nextId, { decoder with store := decoder.store.fresh.2 }) := rfl
  rw [bind_ok fresh, bind_apply, lift_apply]
  cases made : make decoder.store.nextId with
  | error fault =>
    exact .fault (.change .waste) (proper decoder.store.nextId fault made)
  | ok value =>
    have label := labelled decoder.store.nextId value made
    have types := typed decoder.store.nextId value made
    have created : History origin .symbol decoder [.created (symbolOf value) decoder.active]
        { decoder with store := decoder.store.fresh.2.adopt decoder.active (symbolOf value) } :=
      .change (.create label types)
    have inside : decoder.active < decoder.store.fresh.2.tables.size := ready.sound.active_lt
    have known : origin.Knows (decoder.store.fresh.2.adopt decoder.active (symbolOf value))
        (symbolOf value) := by
      refine ⟨Or.inl ⟨?_, decoder.active, ?_⟩, types⟩
      · rw [label]
        exact ready.sound.ids_le
      · rw [Store.owned_adopt _ _ _ _ inside, if_pos rfl]
        exact List.mem_append_right _ (List.mem_singleton_self _)
    have rest := later value _ (created.ready ready) known
    obtain ⟨events, history⟩ := rest.history
    exact ⟨⟨_, created.andThen history⟩, rest.proper, rest.answer⟩

theorem enter_accounts {γ : Type} {make : Nat → Except Fault γ} {symbolOf : γ → Symbol}
    (id : UInt16) (proper : ∀ id, Proper (make id))
    (labelled : ∀ id value, make id = .ok value → (symbolOf value).id = id)
    (typed : ∀ id value, make id = .ok value →
      ∀ type, symbolOf value = .type type → origin.types type) :
    Accounts origin .symbol bound anywhere
      (freshId >>= fun new => liftM (make new) >>= fun value => enter id (symbolOf value))
      fun symbol after => origin.Knows after.store symbol :=
  create_accounts proper labelled typed fun value => register_accounts id (symbolOf value)

/-- The same for a symbol that can always be made. -/
theorem enterNew_accounts {symbolOf : Nat → Symbol} (id : UInt16)
    (labelled : ∀ new, (symbolOf new).id = new)
    (typed : ∀ new type, symbolOf new = .type type → origin.types type) :
    Accounts origin .symbol bound anywhere (freshId >>= fun new => enter id (symbolOf new))
      fun symbol after => origin.Knows after.store symbol := by
  refine @enter_accounts origin bound Nat Except.ok symbolOf id .ok ?_ ?_
  · intro new value made
    cases made
    exact labelled new
  · intro new value made
    cases made
    exact typed new

/-! ## Symbols of a kind -/

theorem asType_accounts (symbol : Symbol) :
    Accounts origin level bound (fun decoder => origin.Knows decoder.store symbol)
      (liftM symbol.asType) fun type _ => origin.types type := by
  apply Accounts.lift symbol.asType_proper
  intro type is decoder known
  cases symbol with
  | type found =>
    cases is
    exact known.typed type rfl
  | _ => cases is

theorem asVariable_accounts (symbol : Symbol) :
    Accounts origin level bound (fun decoder => origin.Knows decoder.store symbol)
      (liftM symbol.asVariable) fun target _ => origin.ids ≤ target.id := by
  apply Accounts.lift symbol.asVariable_proper
  intro target is decoder known
  cases symbol with
  | var found =>
    cases is
    rcases known.housed with ⟨recent, _⟩ | ⟨type, same, _⟩
    · exact recent
    · cases same
  | _ => cases is

theorem asFunction_accounts (symbol : Symbol) :
    Accounts origin level bound (fun decoder => origin.Knows decoder.store symbol)
      (liftM symbol.asFunction) fun function _ => origin.ids ≤ function.id := by
  apply Accounts.lift symbol.asFunction_proper
  intro function is decoder known
  cases symbol with
  | function found =>
    cases is
    rcases known.housed with ⟨recent, _⟩ | ⟨type, same, _⟩
    · exact recent
    · cases same
  | _ => cases is

/-! ## Symbols -/

theorem structMember_accounts {nested : Decode Symbol}
    (account : Accounts origin .symbol bound anywhere nested
      fun symbol after => origin.Knows after.store symbol) :
    Accounts origin .symbol bound anywhere (structMember nested)
      fun member _ => origin.types member.type := by
  apply Accounts.nextThen Read.modifiers_forward
  intro modifiers
  apply Accounts.nextThen Read.string_forward
  intro name
  apply account.bind
  intro symbol
  apply (asType_accounts symbol).thenKnown
  intro type known
  exact .pure fun _ _ => known

theorem symbolRecord_accounts {nested : Decode Symbol}
    (account : Accounts origin .symbol bound anywhere nested
      fun symbol after => origin.Knows after.store symbol) (tag : Command) :
    Accounts origin .symbol bound anywhere (symbolRecord nested tag)
      fun symbol after => origin.Knows after.store symbol := by
  cases tag with
  | arrayType =>
    apply Accounts.nextThen Read.u16_forward
    intro id
    apply account.bind
    intro symbol
    apply (asType_accounts symbol).thenKnown
    intro component known
    apply Accounts.nextThen Read.s8_forward
    intro size
    apply enterNew_accounts id fun _ => rfl
    intro new type same
    cases same
    exact origin.array_mem new component _ known
  | enumType =>
    apply Accounts.nextThen Read.u16_forward
    intro id
    apply Accounts.nextThen Read.string_forward
    intro name
    apply enterNew_accounts id fun _ => rfl
    intro new type same
    cases same
    exact origin.enum_mem new name
  | functionSymbol =>
    apply Accounts.nextThen Read.u16_forward
    intro id
    apply Accounts.nextThen Read.modifiers_forward
    intro modifiers
    apply Accounts.nextThen Read.string_forward
    intro name
    apply Accounts.nextThen Read.u8_forward
    intro count
    have parameter := account.bind fun symbol => asVariable_accounts symbol
    apply (parameter.timesKnown count.toNat).thenKnown
    intro parameters _
    apply account.bind
    intro symbol
    apply (asType_accounts symbol).thenKnown
    intro returnType _
    apply enterNew_accounts id fun _ => rfl
    intro new type same
    cases same
  | field =>
    apply account.bind
    intro symbol
    apply (asVariable_accounts symbol).thenKnown
    intro owner _
    apply Accounts.nextThen Read.u8_forward
    intro index
    have labelled : ∀ new field, BlockMember.ofIndex new .nowhere owner index.toNat = .ok field →
        (Symbol.member field).id = new := fun _ _ => BlockMember.id_of_ofIndex
    have noType : ∀ new field, BlockMember.ofIndex new .nowhere owner index.toNat = .ok field →
        ∀ type, Symbol.member field = .type type → origin.types type := by
      intro new field made type same
      cases same
    have proper := fun new => BlockMember.ofIndex_proper new .nowhere owner index.toNat
    apply create_accounts proper labelled noType
    intro field
    exact .pure fun _ known => known
  | structType =>
    apply Accounts.nextThen Read.u16_forward
    intro id
    apply Accounts.nextThen Read.string_forward
    intro name
    apply Accounts.nextThen Read.u8_forward
    intro count
    apply ((structMember_accounts account).timesKnown count.toNat).thenKnown
    intro members known
    apply enterNew_accounts id fun _ => rfl
    intro new type same
    cases same
    exact origin.struct_mem new name members known
  | symbolRef => exact .nextThen Read.u16_forward fun id => registered_accounts id
  | synonym =>
    apply Accounts.nextThen Read.u16_forward
    intro id
    apply Accounts.nextThen Read.string_forward
    intro name
    apply account.bind
    intro target
    have entered : Accounts origin .symbol bound anywhere
        (freshId >>= fun new => enter id (.synonym new .nowhere name target))
        fun symbol after => origin.Knows after.store symbol := by
      apply enterNew_accounts id fun _ => rfl
      intro new type same
      cases same
    exact entered.fromAnywhere
  | systemType =>
    apply Accounts.nextThen Read.u16_forward
    intro id
    apply Accounts.nextThen Read.string_forward
    intro name
    exact (systemType_accounts name).bind fun type => register_accounts id (.type type)
  | overloadSet =>
    apply Accounts.nextThen Read.u16_forward
    intro id
    apply Accounts.nextThen Read.u8_forward
    intro count
    have member := account.bind fun symbol => asFunction_accounts symbol
    apply (member.timesKnown count.toNat).thenKnown
    intro functions _
    have labelled : ∀ new set, OverloadSet.ofFunctions new functions = .ok set →
        (Symbol.overloads set).id = new := fun _ _ => OverloadSet.id_of_ofFunctions
    have proper := fun new => OverloadSet.ofFunctions_proper new functions
    apply enter_accounts id proper labelled
    intro new set made type same
    cases same
  | varSymbol =>
    apply Accounts.nextThen Read.u16_forward
    intro id
    apply Accounts.nextThen Read.modifiers_forward
    intro modifiers
    apply Accounts.nextThen Read.string_forward
    intro name
    apply account.bind
    intro symbol
    apply (asType_accounts symbol).thenKnown
    intro type _
    apply Accounts.nextThen Read.storage_forward
    intro storage
    apply enterNew_accounts id fun _ => rfl
    intro new type same
    cases same
  | _ => exact .throw rfl

theorem symbolWithin_consumes (depth : Nat) :
    Consumes origin .symbol depth (symbolWithin depth)
      fun symbol after => origin.Knows after.store symbol := by
  induction depth with
  | zero => exact fun _ => .noRoom
  | succ depth inductionHypothesis =>
    exact .tagged fun tag => symbolRecord_accounts inductionHypothesis.accounts tag

theorem symbol_consumes :
    Consumes origin .node bound symbol fun symbol after => origin.Knows after.store symbol :=
  (Consumes.nested symbolWithin_consumes).record

theorem type_consumes : Consumes origin .node bound type fun type _ => origin.types type :=
  symbol_consumes.bind asType_accounts

theorem targetVariable_accounts :
    Accounts origin .node bound anywhere targetVariable fun target _ => origin.ids ≤ target.id :=
  symbol_consumes.accounts.bind asVariable_accounts

theorem function_accounts :
    Accounts origin .node bound anywhere function fun function _ => origin.ids ≤ function.id :=
  symbol_consumes.accounts.bind asFunction_accounts

end Shading.Decode
