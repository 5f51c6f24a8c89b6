import InfraLint.Numeric.Numeral
import InfraLint.Resource.Attributes
import InfraLint.Source.ProjectTag
import InfraLint.Text.Blank

/-!
Attribute values read as numbers and as flags. Interpolated texts are known only when the plan is
applied, and are not judged.
-/
namespace InfraLint
open Source

inductive Quantity where
  | known (x : Binary64)
  | unknown
  | invalid
  deriving DecidableEq, Repr

namespace Quantity

def ofString (s : String) : Quantity :=
  if isInterpolated s then unknown
  else
    match Binary64.ofText? (Text.trim s.toList) with
    | some x => known x
    | none => invalid

def ofJson (value : Json) : Quantity :=
  match value.unwrapped with
  | .int n => known (.ofInt n)
  | .float x => known x
  | .string s => ofString s
  | _ => invalid

def atLeast (min : Int) : Quantity → Bool
  | known x => (Binary64.ofInt min).le x
  | unknown => true
  | invalid => false

end Quantity

/-- The word `true` in any case, a number other than zero, and what is known only later count as
set. A NaN is not zero. -/
def Json.isTruthy (value : Json) : Bool :=
  match value.unwrapped with
  | .bool b => b
  | .string s => isInterpolated s || s.toList.map Char.toLower == "true".toList
  | .int n => n ≠ 0
  | .float x => !x.isZero
  | _ => false

end InfraLint
