import Shading.Layout

/-!
Modifiers of a declaration: its layout and its storage, interpolation and inlining flags.
-/

namespace Shading

/-- A layout together with modifier flags; bits without a name are kept. -/
structure Modifiers where
  layout : Layout := {}
  flags : UInt32 := 0
  deriving DecidableEq, Repr

namespace Modifiers

def constFlag : UInt32 := 1
def inFlag : UInt32 := 2
def outFlag : UInt32 := 4

/-- The masks of the flags that stand for one word each, in the order they are written. -/
def flagTable : List (UInt32 × String) :=
  [(8, "uniform"), (constFlag, "const"), (16, "flat"), (32, "noperspective"),
    (64, "has_side_effects"), (128, "varying"), (256, "inline"), (512, "noinline")]

/-- Whether the declaration is constant. -/
def isConst (modifiers : Modifiers) : Bool :=
  hasBits modifiers.flags constFlag

/-- Whether one byte holds the flags. -/
def fitsInByte (modifiers : Modifiers) : Bool :=
  modifiers.flags ≤ 255

/-- The word for the direction of a parameter, if it has one. -/
def direction? (modifiers : Modifiers) : Option String :=
  if hasBits modifiers.flags (inFlag ||| outFlag) then "inout"
  else if hasBits modifiers.flags inFlag then "in"
  else if hasBits modifiers.flags outFlag then "out"
  else none

/-- The words of a declaration's modifiers, the layout first. -/
def words (modifiers : Modifiers) : List String :=
  (if modifiers.layout.text = "" then [] else [modifiers.layout.text])
    ++ flagWords modifiers.flags flagTable
    ++ modifiers.direction?.toList

def text (modifiers : Modifiers) : String :=
  " ".intercalate modifiers.words

/-- Modifiers in front of what they modify: a blank follows unless there are none. -/
def lead (modifiers : Modifiers) : String :=
  if modifiers.text = "" then "" else modifiers.text ++ " "

end Modifiers

end Shading
