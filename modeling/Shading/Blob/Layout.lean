import Shading.Blob.Reader
import Shading.Modifiers

/-!
Reading layouts and modifiers. Both have a tag for the value without anything, a tag for a short
form and a tag for the full form.
-/

namespace Shading.Read

def primitive : Read Primitive := do
  let raw ← s8
  match Primitive.ofRaw? raw with
  | some primitive => return primitive
  | none => throw (.unknownPrimitive raw)

def hostType : Read HostType := do
  let raw ← s8
  match HostType.ofRaw? raw with
  | some type => return type
  | none => throw (.unknownHostType raw)

/-- A number that the wire has one byte for. -/
def small : Read Int32 := return (← s8).toInt32

/-- What follows the tag of a layout in full form. -/
def fullLayout : Read Layout := do
  let flags ← u32
  let location ← small
  let offset ← small
  let binding ← small
  let index ← small
  let set ← small
  let builtin := (← s16).toInt32
  let inputAttachmentIndex ← small
  let primitive ← primitive
  let maxVertices ← small
  let invocations ← small
  let when ← string
  let hostType ← hostType
  return {
    flags, location, offset, binding, index, set, builtin, inputAttachmentIndex, primitive
    maxVertices, invocations, when, hostType }

def layout : Read Layout := do
  match ← command with
  | .builtinLayout => return Layout.ofBuiltin (← s16).toInt32
  | .defaultLayout => return Layout.default
  | .fullLayout => fullLayout
  | other => throw (.unexpected "a layout" other)

def modifiers : Read Modifiers := do
  match ← command with
  | .defaultModifiers => return {}
  | .byteModifiers =>
    let layout ← layout
    return { layout, flags := (← u8).toUInt32 }
  | .fullModifiers =>
    let layout ← layout
    return { layout, flags := ← u32 }
  | other => throw (.unexpected "modifiers" other)

end Shading.Read
