import Shading.Symbol.Basic
import Shading.Type.Conversion

/-!
Overload resolution: what a call costs, and which function of a set it means.
-/

namespace Shading

/-- The cost of an argument for a parameter. A generic parameter takes the argument as the choice
to which it converts best. -/
def argumentCost (argument parameter : Ty) : Cost :=
  if parameter.isGeneric then Cost.least (parameter.choices.map argument.costTo)
  else argument.costTo parameter

/-- The cost of calling a function with arguments of some types. -/
def Function.callCost (function : Function) (arguments : List Ty) : Cost :=
  if arguments.length = function.parameters.length then
    Cost.sum (List.zipWith (fun argument parameter => argumentCost argument parameter.type)
      arguments function.parameters)
  else .impossible

/-- The cheaper of two functions for a call; the first one if they cost the same. -/
def cheaperCall (arguments : List Ty) (best other : Function) : Function :=
  if (other.callCost arguments).lt (best.callCost arguments) then other else best

/-- The function a call means: among those that the call is allowed for, the cheapest, and of
equally cheap ones the earliest. -/
def OverloadSet.bestMatch? (set : OverloadSet) (arguments : List Ty) (allowNarrowing : Bool) :
    Option Function :=
  match set.functions.filter fun f => (f.callCost arguments).isPossible allowNarrowing with
  | [] => none
  | first :: others => some (others.foldl (cheaperCall arguments) first)

end Shading
