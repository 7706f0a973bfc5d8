/-!
The costs of implicit conversions, in the order that overload resolution prefers them.
-/

namespace Shading

/-- How expensive an implicit conversion is. -/
inductive Cost where
  | free
  /-- So many steps up in priority, or the place of the type in the list of a generic type. -/
  | normal (steps : UInt32)
  /-- So many steps down in priority, which may lose information. -/
  | narrowing (steps : UInt32)
  | impossible
  deriving DecidableEq, Repr

namespace Cost

/-- The kind of a cost, from the best to the worst. -/
def rank : Cost → Nat
  | free => 0
  | normal _ => 1
  | narrowing _ => 2
  | impossible => 3

def steps : Cost → UInt32
  | normal steps | narrowing steps => steps
  | _ => 0

/-- Costs are compared by their kind and then by their steps. -/
def lt (left right : Cost) : Bool :=
  left.rank < right.rank || (left.rank == right.rank && left.steps < right.steps)

def le (left right : Cost) : Bool :=
  !right.lt left

/-- Whether a conversion of this cost is allowed. -/
def isPossible (cost : Cost) (allowNarrowing : Bool) : Bool :=
  match cost with
  | free | normal _ => true
  | narrowing _ => allowNarrowing
  | impossible => false

/-- A sum of steps that stays at the greatest number once it is reached. -/
def addSteps (left right : UInt32) : UInt32 :=
  if left.toNat + right.toNat < 0x100000000 then left + right else 0xFFFFFFFF

/-- The cost of two conversions together. The worse kind decides, and steps add up within it. -/
def add : Cost → Cost → Cost
  | impossible, _ | _, impossible => impossible
  | narrowing left, narrowing right => narrowing (addSteps left right)
  | narrowing steps, _ | _, narrowing steps => narrowing steps
  | normal left, normal right => normal (addSteps left right)
  | normal steps, free | free, normal steps => normal steps
  | free, free => free

/-- The cost of many conversions together. -/
def sum (costs : List Cost) : Cost :=
  costs.foldl add free

/-- The least of some costs; without any, no conversion is possible. -/
def least (costs : List Cost) : Cost :=
  costs.foldl (fun best cost => if cost.lt best then cost else best) impossible

def text : Cost → String
  | free => "Free"
  | normal steps => s!"Normal({steps})"
  | narrowing steps => s!"Narrowing({steps})"
  | impossible => "Impossible"

end Cost

end Shading
