/-!
Ranges of code points, the form in which character properties are stored.
-/
namespace InfraLint.Text

/-- Both ends belong to the range. -/
structure CodeRange where
  first : Nat
  last : Nat
  deriving DecidableEq, Repr

def CodeRange.contains (r : CodeRange) (n : Nat) : Bool :=
  r.first ≤ n && n ≤ r.last

end InfraLint.Text

def Char.inRanges (c : Char) (ranges : List InfraLint.Text.CodeRange) : Bool :=
  ranges.any (·.contains c.toNat)
