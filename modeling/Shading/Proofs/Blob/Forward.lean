import Shading.Decode.Expr
import Shading.Proofs.Proper

/-!
Reading only moves forward. A reader never goes back, never changes its blob and never leaves it,
whether what it reads is well formed or not, and its faults say what is wrong with the bytes. The
main statement for each way of reading is `Forward`; a tag, which every record starts with, takes
exactly one byte.
-/

namespace Shading

/-- A reader moves on in the same blob. -/
structure Reader.Advances (before after : Reader) : Prop where
  bytes_eq : after.bytes = before.bytes
  offset_le : before.offset ≤ after.offset
  inside : before.offset ≤ before.bytes.size → after.offset ≤ after.bytes.size

namespace Reader.Advances

variable {before middle after : Reader}

theorem refl (reader : Reader) : reader.Advances reader where
  bytes_eq := rfl
  offset_le := Nat.le_refl _
  inside := id

theorem trans (first : before.Advances middle) (second : middle.Advances after) :
    before.Advances after where
  bytes_eq := second.bytes_eq.trans first.bytes_eq
  offset_le := Nat.le_trans first.offset_le second.offset_le
  inside := second.inside ∘ first.inside

theorem remaining_le (advances : before.Advances after) : after.remaining ≤ before.remaining := by
  rw [remaining, remaining, advances.bytes_eq]
  exact Nat.sub_le_sub_left advances.offset_le _

end Reader.Advances

/-- Whether a fault says what is wrong with the bytes of a blob, by themselves. -/
def Fault.isOfBytes (fault : Fault) : Bool :=
  fault matches .truncated .. | .unknownCommand .. | .stringOutside .. | .stringOverrun .. |
    .stringEncoding .. | .unknownOperator .. | .unknownPrimitive .. | .unknownHostType .. |
    .unknownStorage .. | .unknownMemberOwner .. | .unknownLane .. | .unknownReference .. |
    .unexpected ..

/-- An outcome that only the bytes of a blob keep from being a value. -/
def OfBytes {α : Type} (outcome : Except Fault α) : Prop :=
  ∀ fault, outcome = .error fault → fault.isOfBytes = true

namespace OfBytes

variable {α : Type}

theorem ok (value : α) : OfBytes (.ok value) :=
  nofun

theorem error {fault : Fault} (ofBytes : fault.isOfBytes = true) :
    OfBytes (.error fault : Except Fault α) := by
  intro other same
  cases same
  exact ofBytes

theorem proper {outcome : Except Fault α} (ofBytes : OfBytes outcome) : Proper outcome := by
  intro fault failed
  have plain := ofBytes fault failed
  cases fault with
  | nestingBound | circularConstant => cases plain
  | _ => rfl

end OfBytes

/-- A way of reading that only moves forward and only faults for what the bytes are. -/
structure Read.Forward {α : Type} (read : Read α) : Prop where
  advances : ∀ reader : Reader, reader.Advances (read reader).2
  ofBytes : ∀ reader : Reader, OfBytes (read reader).1

namespace Read

open Stepping

variable {α β : Type}

namespace Forward

/-- The bound on nested records means nothing to reading. -/
theorem proper {read : Read α} (forward : Forward read) (reader : Reader) :
    Proper (read reader).1 :=
  (forward.ofBytes reader).proper

theorem moved {read : Read α} (forward : Forward read) {before after : Reader}
    {outcome : Except Fault α} (ran : read before = (outcome, after)) : before.Advances after := by
  have advances := forward.advances before
  rwa [ran] at advances

theorem pure (value : α) : Forward (Pure.pure value : Read α) where
  advances := Reader.Advances.refl
  ofBytes _ := .ok value

theorem throw {fault : Fault} (ofBytes : fault.isOfBytes = true) :
    Forward (throw fault : Read α) where
  advances := Reader.Advances.refl
  ofBytes _ := .error ofBytes

theorem get : Forward (get : Read Reader) where
  advances := Reader.Advances.refl
  ofBytes _ := .ok _

theorem lift {outcome : Except Fault α} (ofBytes : OfBytes outcome) :
    Forward (liftM outcome : Read α) where
  advances := Reader.Advances.refl
  ofBytes _ := ofBytes

theorem bind {first : Read α} {next : α → Read β} (forward : Forward first)
    (later : ∀ value, Forward (next value)) : Forward (first >>= next) := by
  have runs : ∀ reader : Reader, reader.Advances ((first >>= next) reader).2 ∧
      OfBytes ((first >>= next) reader).1 := by
    intro reader
    have moved : reader.Advances (first reader).2 := forward.advances reader
    have ofBytes : OfBytes (first reader).1 := forward.ofBytes reader
    rw [bind_apply]
    cases ran : first reader with
    | mk outcome after =>
      rw [ran] at moved ofBytes
      cases outcome with
      | ok value => exact ⟨moved.trans ((later value).advances after), (later value).ofBytes after⟩
      | error fault => exact ⟨moved, .error (ofBytes fault rfl)⟩
  exact ⟨fun reader => (runs reader).1, fun reader => (runs reader).2⟩

end Forward

/-! ## Plain values -/

theorem bytes_forward (count : Nat) : Forward (bytes count) := by
  have runs : ∀ reader : Reader, reader.Advances (bytes count reader).2 ∧
      OfBytes (bytes count reader).1 := by
    intro reader
    rw [bytes, bind_ok (get_apply reader)]
    split
    · rename_i room
      rw [bind_ok (set_apply _ reader), pure_apply]
      exact ⟨⟨rfl, Nat.le_add_right _ _, fun _ => room⟩, .ok _⟩
    · rw [throw_apply]
      exact ⟨.refl reader, .error rfl⟩
  exact ⟨fun reader => (runs reader).1, fun reader => (runs reader).2⟩

theorem number_forward (count : Nat) : Forward (number count) := by
  exact (bytes_forward count).bind fun _ => .pure _

theorem u8_forward : Forward u8 := by
  exact (number_forward 1).bind fun _ => .pure _

theorem s8_forward : Forward s8 := by
  exact u8_forward.bind fun _ => .pure _

theorem u16_forward : Forward u16 := by
  exact (number_forward 2).bind fun _ => .pure _

theorem s16_forward : Forward s16 := by
  exact u16_forward.bind fun _ => .pure _

theorem u32_forward : Forward u32 := by
  exact (number_forward 4).bind fun _ => .pure _

theorem s32_forward : Forward s32 := by
  exact u32_forward.bind fun _ => .pure _

theorem bool_forward : Forward bool := by
  exact u8_forward.bind fun _ => .pure _

theorem command_forward : Forward command := by
  refine u8_forward.bind fun byte => ?_
  split
  · exact .pure _
  · exact Forward.get.bind fun _ => .throw rfl

theorem textAt_ofBytes (blob : Array UInt8) (offset : Nat) : OfBytes (textAt blob offset) := by
  rw [textAt]
  split
  · exact .error rfl
  · split
    · split
      · exact .ok _
      · exact .error rfl
    · exact .error rfl

theorem string_forward : Forward string := by
  refine u16_forward.bind fun offset => ?_
  exact Forward.get.bind fun reader => .lift (textAt_ofBytes reader.bytes offset.toNat)

/-- A tag takes one byte. -/
theorem offset_of_command_ok {reader after : Reader} {tag : Command}
    (read : command reader = (.ok tag, after)) : after.offset = reader.offset + 1 := by
  have byte : ∀ value next, u8 reader = (.ok value, next) → next.offset = reader.offset + 1 := by
    intro value next ran
    rw [u8, number, bytes] at ran
    by_cases room : reader.offset + 1 ≤ reader.bytes.size
    · simp only [bind_apply, get_apply, if_pos room, set_apply, pure_apply] at ran
      cases ran
      rfl
    · simp only [bind_apply, get_apply, if_neg room, throw_apply] at ran
      cases ran
  cases ran : u8 reader with
  | mk outcome next =>
    rw [command, bind_apply, ran] at read
    cases outcome with
    | error fault => cases read
    | ok value =>
      dsimp only at read
      cases known : Command.ofByte? value with
      | none =>
        rw [known] at read
        cases read
      | some found =>
        rw [known] at read
        cases read
        exact byte value after ran

/-- What starts with a tag takes at least one byte. -/
theorem offset_lt_of_tagged {next : Command → Read α} (later : ∀ tag, Forward (next tag))
    {reader after : Reader} {value : α} (ran : (command >>= next) reader = (.ok value, after)) :
    reader.offset < after.offset := by
  rw [bind_apply] at ran
  cases read : command reader with
  | mk result middle =>
    rw [read] at ran
    cases result with
    | error fault => cases ran
    | ok tag =>
      have oneByte := offset_of_command_ok read
      have onwards := ((later tag).advances middle).offset_le
      dsimp only at ran
      rw [ran] at onwards
      dsimp only at onwards
      omega

/-! ## Members of enumerations, layouts and modifiers -/

theorem operator_forward : Forward Decode.operator := by
  refine u8_forward.bind fun raw => ?_
  split
  · exact .pure _
  · exact .throw rfl

theorem storage_forward : Forward Decode.storage := by
  refine u8_forward.bind fun raw => ?_
  split
  · exact .pure _
  · exact .throw rfl

theorem memberOwner_forward : Forward Decode.memberOwner := by
  refine u8_forward.bind fun raw => ?_
  split
  · exact .pure _
  · exact .throw rfl

theorem lane_forward : Forward Decode.lane := by
  refine u8_forward.bind fun raw => ?_
  split
  · exact .pure _
  · exact .throw rfl

theorem refKind_forward : Forward Decode.refKind := by
  refine u8_forward.bind fun raw => ?_
  split
  · exact .pure _
  · exact .throw rfl

theorem primitive_forward : Forward primitive := by
  refine s8_forward.bind fun raw => ?_
  split
  · exact .pure _
  · exact .throw rfl

theorem hostType_forward : Forward hostType := by
  refine s8_forward.bind fun raw => ?_
  split
  · exact .pure _
  · exact .throw rfl

theorem small_forward : Forward small := by
  exact s8_forward.bind fun _ => .pure _

theorem fullLayout_forward : Forward fullLayout := by
  refine u32_forward.bind fun flags => ?_
  refine small_forward.bind fun location => ?_
  refine small_forward.bind fun offset => ?_
  refine small_forward.bind fun binding => ?_
  refine small_forward.bind fun index => ?_
  refine small_forward.bind fun set => ?_
  refine s16_forward.bind fun builtin => ?_
  refine small_forward.bind fun inputAttachmentIndex => ?_
  refine primitive_forward.bind fun primitive => ?_
  refine small_forward.bind fun maxVertices => ?_
  refine small_forward.bind fun invocations => ?_
  refine string_forward.bind fun condition => ?_
  exact hostType_forward.bind fun hostType => .pure _

theorem layout_tagged : ∃ next : Command → Read Layout,
    layout = command >>= next ∧ ∀ tag, Forward (next tag) := by
  refine ⟨_, rfl, fun tag => ?_⟩
  split
  · exact s16_forward.bind fun _ => .pure _
  · exact .pure _
  · exact fullLayout_forward
  · exact .throw rfl

theorem layout_forward : Forward layout := by
  obtain ⟨next, same, later⟩ := layout_tagged
  rw [same]
  exact command_forward.bind later

theorem modifiers_tagged : ∃ next : Command → Read Modifiers,
    modifiers = command >>= next ∧ ∀ tag, Forward (next tag) := by
  refine ⟨_, rfl, fun tag => ?_⟩
  split
  · exact .pure _
  · refine layout_forward.bind fun layout => ?_
    exact u8_forward.bind fun _ => .pure _
  · refine layout_forward.bind fun layout => ?_
    exact u32_forward.bind fun _ => .pure _
  · exact .throw rfl

theorem modifiers_forward : Forward modifiers := by
  obtain ⟨next, same, later⟩ := modifiers_tagged
  rw [same]
  exact command_forward.bind later

end Read

end Shading
