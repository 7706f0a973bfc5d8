import Shading.Blob.Layout
import Shading.Proofs.Blob.RoundTrip

/-!
Layouts and modifiers on the wire. Both are written as plain items, and reading those items gives
the same value with its numbers cut to what the wire has room for. Nothing is lost exactly if the
numbers fit. Main statements: `Layout.onWire_eq_iff_fits`, `Read.Takes.layout` and
`Read.Takes.modifiers`.
-/

namespace Shading

/-! ## What the wire keeps -/

/-- A number as its low byte stands for it. -/
def lowByte (value : Int32) : Int32 := value.toInt8.toInt32

/-- A number as its two low bytes stand for it. -/
def lowWord (value : Int32) : Int32 := value.toInt16.toInt32

theorem lowByte_eq_iff (value : Int32) : lowByte value = value ↔ -128 ≤ value ∧ value ≤ 127 := by
  have least : (-128 : Int32).toInt = -128 := by decide
  have greatest : (127 : Int32).toInt = 127 := by decide
  rw [lowByte, ← Int32.toInt_inj, Int8.toInt_toInt32, Int32.toInt_toInt8, Int32.le_iff_toInt_le,
    Int32.le_iff_toInt_le, least, greatest, Int.bmod_def]
  omega

theorem lowWord_eq_iff (value : Int32) :
    lowWord value = value ↔ -32768 ≤ value ∧ value ≤ 32767 := by
  have least : (-32768 : Int32).toInt = -32768 := by decide
  have greatest : (32767 : Int32).toInt = 32767 := by decide
  rw [lowWord, ← Int32.toInt_inj, Int16.toInt_toInt32, Int32.toInt_toInt16, Int32.le_iff_toInt_le,
    Int32.le_iff_toInt_le, least, greatest, Int.bmod_def]
  omega

theorem byte_of_le {flags : UInt32} (bound : flags ≤ 255) : flags.toUInt8.toUInt32 = flags := by
  have small : flags.toNat ≤ 255 := bound
  rw [← UInt32.toNat_inj, UInt8.toNat_toUInt32, UInt32.toNat_toUInt8]
  omega

namespace Layout

/-- A layout with its numbers cut to their bytes on the wire. -/
def onWire (layout : Layout) : Layout :=
  { layout with
    location := lowByte layout.location
    offset := lowByte layout.offset
    binding := lowByte layout.binding
    index := lowByte layout.index
    set := lowByte layout.set
    builtin := lowWord layout.builtin
    inputAttachmentIndex := lowByte layout.inputAttachmentIndex
    maxVertices := lowByte layout.maxVertices
    invocations := lowByte layout.invocations }

/-- The numbers that the wire has one byte for. -/
def byteNumbers (layout : Layout) : List Int32 :=
  [layout.location, layout.offset, layout.binding, layout.index, layout.set,
    layout.inputAttachmentIndex, layout.maxVertices, layout.invocations]

/-- Whether the wire has room for every number. -/
def Fits (layout : Layout) : Prop :=
  (∀ value ∈ layout.byteNumbers, -128 ≤ value ∧ value ≤ 127) ∧
    -32768 ≤ layout.builtin ∧ layout.builtin ≤ 32767

instance (layout : Layout) : Decidable layout.Fits :=
  inferInstanceAs (Decidable (_ ∧ _))

theorem onWire_eq_iff_fits (layout : Layout) : layout.onWire = layout ↔ layout.Fits := by
  have fields : layout.onWire = layout ↔
      (∀ value ∈ layout.byteNumbers, lowByte value = value) ∧
        lowWord layout.builtin = layout.builtin := by
    cases layout
    simp only [onWire, byteNumbers, Layout.mk.injEq, List.forall_mem_cons]
    constructor
    · rintro ⟨-, location, offset, binding, index, set, builtin, attachment, -, vertices,
        invocations, -, -⟩
      exact ⟨⟨location, offset, binding, index, set, attachment, vertices, invocations, nofun⟩,
        builtin⟩
    · rintro ⟨⟨location, offset, binding, index, set, attachment, vertices, invocations, -⟩,
        builtin⟩
      exact ⟨trivial, location, offset, binding, index, set, builtin, attachment, trivial, vertices,
        invocations, trivial, trivial⟩
  rw [fields, Fits, lowWord_eq_iff]
  simp only [lowByte_eq_iff]

/-- The items that a layout is written as, in the shortest of its three forms. -/
def items (layout : Layout) : List Item :=
  if layout.isDefault then [.command .defaultLayout]
  else if layout == ofBuiltin layout.builtin then
    [.command .builtinLayout, .s16 layout.builtin.toInt16]
  else
    [.command .fullLayout, .u32 layout.flags, .s8 layout.location.toInt8, .s8 layout.offset.toInt8,
      .s8 layout.binding.toInt8, .s8 layout.index.toInt8, .s8 layout.set.toInt8,
      .s16 layout.builtin.toInt16, .s8 layout.inputAttachmentIndex.toInt8,
      .s8 layout.primitive.toRaw, .s8 layout.maxVertices.toInt8, .s8 layout.invocations.toInt8,
      .string layout.when, .s8 layout.hostType.toRaw]

end Layout

namespace Modifiers

/-- Modifiers with the numbers of their layout cut to their bytes on the wire. -/
def onWire (modifiers : Modifiers) : Modifiers :=
  { modifiers with layout := modifiers.layout.onWire }

def Fits (modifiers : Modifiers) : Prop := modifiers.layout.Fits

instance (modifiers : Modifiers) : Decidable modifiers.Fits :=
  inferInstanceAs (Decidable modifiers.layout.Fits)

theorem onWire_eq_iff_fits (modifiers : Modifiers) :
    modifiers.onWire = modifiers ↔ modifiers.Fits := by
  rw [Fits, ← Layout.onWire_eq_iff_fits]
  cases modifiers
  simp [onWire]

/-- The items that modifiers are written as, in the shortest of their three forms. -/
def items (modifiers : Modifiers) : List Item :=
  if modifiers == {} then [.command .defaultModifiers]
  else if modifiers.fitsInByte then
    .command .byteModifiers :: (modifiers.layout.items ++ [.u8 modifiers.flags.toUInt8])
  else .command .fullModifiers :: (modifiers.layout.items ++ [.u32 modifiers.flags])

end Modifiers

/-! ## Writing -/

namespace Item

theorem writeAll_append (writer : Writer) (first second : List Item) :
    writeAll writer (first ++ second) =
      writeAll writer first >>= fun middle => writeAll middle second :=
  List.foldlM_append

theorem writeAll_cons (writer : Writer) (item : Item) (rest : List Item) :
    writeAll writer (item :: rest) =
      item.write writer >>= fun middle => writeAll middle rest :=
  List.foldlM_cons

end Item

namespace Writer

theorem layout_eq_writeAll (writer : Writer) (layout : Layout) :
    writer.layout layout = Item.writeAll writer layout.items := by
  rw [Writer.layout, Layout.items]
  split
  · rfl
  · split
    · rfl
    · simp only [Item.writeAll_cons, Item.write]
      cases writer.string layout.when <;> rfl

theorem modifiers_eq_writeAll (writer : Writer) (modifiers : Modifiers) :
    writer.modifiers modifiers = Item.writeAll writer modifiers.items := by
  rw [Writer.modifiers, Modifiers.items]
  split
  · rfl
  · split
    · rw [layout_eq_writeAll]
      exact (Item.writeAll_append (writer.command .byteModifiers) modifiers.layout.items
        [.u8 modifiers.flags.toUInt8]).symm
    · rw [layout_eq_writeAll]
      exact (Item.writeAll_append (writer.command .fullModifiers) modifiers.layout.items
        [.u32 modifiers.flags]).symm

end Writer

/-! ## Reading -/

namespace Read.Takes

variable {offsets : List (String × UInt16)}

theorem small (value : Int32) : Takes offsets Read.small [.s8 value.toInt8] (lowByte value) :=
  (s8 value.toInt8).bind (.pure _)

theorem primitive (primitive : Primitive) :
    Takes offsets Read.primitive [.s8 primitive.toRaw] primitive := by
  apply (s8 primitive.toRaw).bind
  rw [Primitive.ofRaw?_toRaw]
  exact .pure primitive

theorem hostType (type : HostType) : Takes offsets Read.hostType [.s8 type.toRaw] type := by
  apply (s8 type.toRaw).bind
  rw [HostType.ofRaw?_toRaw]
  exact .pure type

/-- A layout is read back from its items with its numbers cut, whichever form it has. -/
theorem layout (layout : Layout) : Takes offsets Read.layout layout.items layout.onWire := by
  rw [Layout.items]
  split
  · rename_i isDefault
    have same : layout = Layout.default := by simpa [Layout.isDefault] using isDefault
    subst same
    exact (command .defaultLayout).bind (.pure _)
  · split
    · rename_i onlyBuiltin
      -- All numbers but one are those of the default layout, which the wire has room for.
      have cut : layout.onWire = Layout.ofBuiltin (lowWord layout.builtin) := by
        have same : layout = Layout.ofBuiltin layout.builtin := by simpa using onlyBuiltin
        rw [same]
        rfl
      rw [cut]
      apply (command .builtinLayout).bind
      exact (s16 layout.builtin.toInt16).bind (.pure _)
    · apply (command .fullLayout).bind
      apply (u32 layout.flags).bind
      apply (small layout.location).bind
      apply (small layout.offset).bind
      apply (small layout.binding).bind
      apply (small layout.index).bind
      apply (small layout.set).bind
      apply (s16 layout.builtin.toInt16).bind
      apply (small layout.inputAttachmentIndex).bind
      apply (primitive layout.primitive).bind
      apply (small layout.maxVertices).bind
      apply (small layout.invocations).bind
      apply (string layout.when).bind
      exact (hostType layout.hostType).bind (.pure _)

theorem modifiers (modifiers : Modifiers) :
    Takes offsets Read.modifiers modifiers.items modifiers.onWire := by
  rw [Modifiers.items]
  split
  · rename_i isDefault
    have same : modifiers = {} := by simpa using isDefault
    subst same
    exact (command .defaultModifiers).bind (.pure _)
  · split
    · rename_i fits
      have bound : modifiers.flags ≤ 255 := by simpa [Modifiers.fitsInByte] using fits
      have whole : modifiers.flags.toUInt8.toUInt32 = modifiers.flags := byte_of_le bound
      apply (command .byteModifiers).bind
      apply (layout modifiers.layout).bind
      apply (u8 modifiers.flags.toUInt8).bind
      rw [whole]
      exact .pure modifiers.onWire
    · apply (command .fullModifiers).bind
      apply (layout modifiers.layout).bind
      exact (u32 modifiers.flags).bind (.pure _)

end Read.Takes

end Shading
