import Shading.Proofs.Blob.Forward

/-!
Reading a blob that goes on. Records are read in order and texts are looked up in the whole blob,
but what can be read at all lies within the blob, so that it is the same in every longer one. Only
a read that ran out of bytes can end in another way.
-/

namespace Shading

/-- A reader of the blob with more bytes at its end, at the same place. -/
def Reader.extended (reader : Reader) (tail : Array UInt8) : Reader :=
  { reader with bytes := reader.bytes ++ tail }

@[simp]
theorem Reader.extended_empty (reader : Reader) : reader.extended #[] = reader := by
  rw [extended, Array.append_empty]

/-- The bytes before the end are where they were. -/
theorem Reader.size_le_extended (reader : Reader) (tail : Array UInt8) :
    reader.bytes.size ≤ (reader.extended tail).bytes.size := by
  simp [extended]

theorem Reader.remaining_le_extended (reader : Reader) (tail : Array UInt8) :
    reader.remaining ≤ (reader.extended tail).remaining := by
  have longer := reader.size_le_extended tail
  exact Nat.sub_le_sub_right longer reader.offset

/-- What lies before the end of a blob is the same if the blob goes on. -/
theorem extract_append_of_le {bytes : Array UInt8} {start stop : Nat}
    (inside : stop ≤ bytes.size) (tail : Array UInt8) :
    (bytes ++ tail).extract start stop = bytes.extract start stop := by
  have nothing : stop - bytes.size = 0 := by omega
  rw [Array.extract_append, nothing]
  simp

/-- A blob whose header is usable stays usable when it goes on, and its records start where they
did. -/
theorem Reader.start_append {bytes : Array UInt8} {reader : Reader}
    (started : start bytes = .ok reader) (tail : Array UInt8) :
    start (bytes ++ tail) = .ok (reader.extended tail) := by
  rw [start] at started ⊢
  rw [Array.toList_append]
  rcases shape : bytes.toList with _ | ⟨stopLow, _ | ⟨stopHigh, _ | ⟨versionLow, _ | ⟨versionHigh, rest⟩⟩⟩⟩
  · rw [shape] at started
    cases started
  · rw [shape] at started
    cases started
  · rw [shape] at started
    cases started
  · rw [shape] at started
    cases started
  · rw [shape] at started
    dsimp only [List.cons_append] at started ⊢
    split at started
    · cases started
    · rename_i version
      rw [if_neg version]
      split at started
      · cases started
      · rename_i fits
        cases started
        have longer : bytes.size ≤ (bytes ++ tail).size := by simp
        have stillFits : ¬(ofLittleEndian [stopLow, stopHigh] < headerLength ∨
            (bytes ++ tail).size < ofLittleEndian [stopLow, stopHigh]) := by
          omega
        rw [if_neg stillFits]
        rfl

/-- A way of reading whose answers do not depend on what comes after the blob. -/
structure Read.Local {α : Type} (read : Read α) : Prop where
  forward : read.Forward
  extended : ∀ {reader after : Reader} {value : α}, read reader = (.ok value, after) →
    ∀ tail, read (reader.extended tail) = (.ok value, after.extended tail)

namespace Read

open Stepping

variable {α β : Type}

namespace Local

theorem pure (value : α) : Local (Pure.pure value : Read α) where
  forward := .pure value
  extended ran tail := by
    cases ran
    rfl

theorem throw {fault : Fault} (ofBytes : fault.isOfBytes = true) :
    Local (throw fault : Read α) where
  forward := .throw ofBytes
  extended ran tail := by cases ran

theorem bind {first : Read α} {next : α → Read β} (earlier : Local first)
    (later : ∀ value, Local (next value)) : Local (first >>= next) where
  forward := earlier.forward.bind fun value => (later value).forward
  extended ran tail := by
    obtain ⟨value, middle, firstRan, nextRan⟩ := exists_of_bind_run ran
    rw [bind_ok (earlier.extended firstRan tail)]
    exact (later value).extended nextRan tail

end Local

/-! ## Plain values -/

theorem bytes_local (count : Nat) : Local (bytes count) where
  forward := bytes_forward count
  extended {reader after value} ran tail := by
    rw [bytes, bind_ok (get_apply reader)] at ran
    rw [bytes, bind_ok (get_apply (reader.extended tail))]
    by_cases room : reader.offset + count ≤ reader.bytes.size
    · have longer := reader.size_le_extended tail
      have stillRoom : (reader.extended tail).offset + count ≤
          (reader.extended tail).bytes.size := Nat.le_trans room longer
      rw [if_pos room, bind_ok (set_apply _ reader), pure_apply] at ran
      rw [if_pos stillRoom, bind_ok (set_apply _ (reader.extended tail)), pure_apply]
      cases ran
      have same : (reader.bytes ++ tail).extract reader.offset (reader.offset + count) =
          reader.bytes.extract reader.offset (reader.offset + count) :=
        extract_append_of_le room tail
      rw [← same]
      rfl
    · rw [if_neg room] at ran
      cases ran

theorem number_local (count : Nat) : Local (number count) := by
  exact (bytes_local count).bind fun _ => .pure _

theorem u8_local : Local u8 := by
  exact (number_local 1).bind fun _ => .pure _

theorem s8_local : Local s8 := by
  exact u8_local.bind fun _ => .pure _

theorem u16_local : Local u16 := by
  exact (number_local 2).bind fun _ => .pure _

theorem s16_local : Local s16 := by
  exact u16_local.bind fun _ => .pure _

theorem u32_local : Local u32 := by
  exact (number_local 4).bind fun _ => .pure _

theorem s32_local : Local s32 := by
  exact u32_local.bind fun _ => .pure _

theorem bool_local : Local bool := by
  exact u8_local.bind fun _ => .pure _

theorem command_local : Local command where
  forward := command_forward
  extended ran tail := by
    obtain ⟨byte, middle, byteRan, rest⟩ := exists_of_bind_run ran
    rw [command, bind_ok (u8_local.extended byteRan tail)]
    cases known : Command.ofByte? byte with
    | none =>
      rw [known] at rest
      cases rest
    | some tag =>
      rw [known] at rest
      cases rest
      rfl

theorem textAt_append {blob : Array UInt8} {offset : Nat} {text : String}
    (found : textAt blob offset = .ok text) (tail : Array UInt8) :
    textAt (blob ++ tail) offset = .ok text := by
  rw [textAt] at found ⊢
  cases length : blob[offset]? with
  | none =>
    rw [length] at found
    cases found
  | some count =>
    have inside : offset < blob.size := (Array.getElem?_eq_some_iff.mp length).1
    rw [length] at found
    rw [Array.getElem?_append_left inside, length]
    dsimp only at found ⊢
    by_cases room : offset + 1 + count.toNat ≤ blob.size
    · have stillRoom : offset + 1 + count.toNat ≤ (blob ++ tail).size := by
        rw [Array.size_append]
        omega
      rw [if_pos room] at found
      rw [if_pos stillRoom, extract_append_of_le room tail]
      exact found
    · rw [if_neg room] at found
      cases found

theorem string_local : Local string where
  forward := string_forward
  extended ran tail := by
    obtain ⟨offset, middle, offsetRan, rest⟩ := exists_of_bind_run ran
    rw [bind_ok (get_apply middle)] at rest
    obtain ⟨found, same⟩ := lift_run rest
    rw [string, bind_ok (u16_local.extended offsetRan tail), bind_ok (get_apply _), lift_apply]
    subst same
    exact congrArg (·, _) (textAt_append found tail)

/-! ## Members of enumerations, layouts and modifiers -/

theorem operator_local : Local Decode.operator := by
  refine u8_local.bind fun raw => ?_
  split
  · exact .pure _
  · exact .throw rfl

theorem storage_local : Local Decode.storage := by
  refine u8_local.bind fun raw => ?_
  split
  · exact .pure _
  · exact .throw rfl

theorem memberOwner_local : Local Decode.memberOwner := by
  refine u8_local.bind fun raw => ?_
  split
  · exact .pure _
  · exact .throw rfl

theorem lane_local : Local Decode.lane := by
  refine u8_local.bind fun raw => ?_
  split
  · exact .pure _
  · exact .throw rfl

theorem refKind_local : Local Decode.refKind := by
  refine u8_local.bind fun raw => ?_
  split
  · exact .pure _
  · exact .throw rfl

theorem primitive_local : Local primitive := by
  refine s8_local.bind fun raw => ?_
  split
  · exact .pure _
  · exact .throw rfl

theorem hostType_local : Local hostType := by
  refine s8_local.bind fun raw => ?_
  split
  · exact .pure _
  · exact .throw rfl

theorem small_local : Local small := by
  exact s8_local.bind fun _ => .pure _

theorem fullLayout_local : Local fullLayout := by
  refine u32_local.bind fun flags => ?_
  refine small_local.bind fun location => ?_
  refine small_local.bind fun offset => ?_
  refine small_local.bind fun binding => ?_
  refine small_local.bind fun index => ?_
  refine small_local.bind fun set => ?_
  refine s16_local.bind fun builtin => ?_
  refine small_local.bind fun inputAttachmentIndex => ?_
  refine primitive_local.bind fun primitive => ?_
  refine small_local.bind fun maxVertices => ?_
  refine small_local.bind fun invocations => ?_
  refine string_local.bind fun condition => ?_
  exact hostType_local.bind fun hostType => .pure _

theorem layout_local : Local layout := by
  refine command_local.bind fun tag => ?_
  split
  · exact s16_local.bind fun _ => .pure _
  · exact .pure _
  · exact fullLayout_local
  · exact .throw rfl

theorem modifiers_local : Local modifiers := by
  refine command_local.bind fun tag => ?_
  split
  · exact .pure _
  · refine layout_local.bind fun layout => ?_
    exact u8_local.bind fun _ => .pure _
  · refine layout_local.bind fun layout => ?_
    exact u32_local.bind fun _ => .pure _
  · exact .throw rfl

end Read

end Shading
