/-!
Integers that fit into so many bits.
-/
namespace InfraLint

def bitBound (bits : Nat) : Nat := 1 <<< bits

def fitsUnsigned (bits : Nat) (n : Int) : Bool := 0 ≤ n && n < bitBound bits

def fitsSigned (bits : Nat) (n : Int) : Bool :=
  -bitBound (bits - 1) ≤ n && n < bitBound (bits - 1)

end InfraLint
