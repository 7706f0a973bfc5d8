/-!
What a compilation is configured with.
-/

namespace Shading

/-- A known capability of the target. -/
inductive Capability where
  | bool (value : Bool)
  | int (value : Int32)
  deriving DecidableEq, Repr

/-- How strictly programs are checked, and what is known of the target. -/
structure Context where
  /-- Whether implicit conversions may lose information. -/
  allowNarrowing : Bool := false
  capabilities : List (String × Capability) := []
  deriving DecidableEq, Repr

/-- What is known of a capability. -/
def Context.capability? (context : Context) (name : String) : Option Capability :=
  context.capabilities.lookup name

end Shading
