import Shading.Report.Basic
import Shading.Type.Slots

/-!
Reports on layouts, modifiers and types.
-/

namespace Shading

/-- Every qualifier of a layout, given or not. -/
def Layout.report (layout : Layout) : Report :=
  let number (value : Int32) : Report := .number value.toInt
  .list
    [.number layout.flags.toNat, number layout.location, number layout.offset,
      number layout.binding, number layout.index, number layout.set, number layout.builtin,
      number layout.inputAttachmentIndex, layout.primitive.name, number layout.maxVertices,
      number layout.invocations, layout.when, layout.hostType.name]

/-- The flags, source form and layout of modifiers. -/
def Modifiers.report (modifiers : Modifiers) : Report :=
  .record
    [("flags", .number modifiers.flags.toNat), ("text", modifiers.text),
      ("layout", modifiers.layout.report)]

namespace Ty

/-- What an array, struct or generic type is made of. -/
def shape : Ty → Report
  | array _ component size => .texts [component.name, size.name]
  | struct _ members =>
    .list (members.map fun member =>
      .texts [member.modifiers.text, member.type.name, member.name])
  | generic _ choices => .texts (choices.map name)
  | _ => .absent

/-- All that is known about a type. -/
def report (type : Ty) : Report :=
  .record
    [("name", type.name), ("display", type.displayName), ("class", type.typeClass.name),
      ("is", .texts type.properties), ("number_kind", type.numberKind.name),
      ("priority", .number type.priority), ("bits", .number type.bits),
      ("component", type.component.name), ("concrete", type.concrete.name),
      ("columns", .number type.columns), ("rows", .number type.rows),
      ("size", .ofOption (fun size => .text size.name) type.arraySize?),
      ("slots", .ofAnswer (fun count => .number count) type.slotCount),
      ("min", .ofOption .number type.minimum?), ("max", .ofOption .number type.maximum?),
      ("span", type.span.text), ("shape", type.shape),
      ("fields", .number type.members.length), ("coercible", .number type.choices.length)]

end Ty

end Shading
