import InfraLint.Numeric.Width

/-!
Binary floating-point numbers of 64 bits, with exact arithmetic underneath. A finite number is a
count of units of `2 ^ -1074`, the smallest positive number there is; rounding takes a quotient of
such counts to the nearest number, and of two equally near ones to the even one.
-/
namespace InfraLint

inductive Binary64 where
  | finite (negative : Bool) (units : Nat)
  | infinite (negative : Bool)
  | nan
  deriving DecidableEq, Repr

namespace Binary64

def one : Nat := Nat.pow 2 1074

def limit : Nat := Nat.pow 2 1024 * one

def roundedQuotient (num den : Nat) : Nat :=
  let q := num / den
  let r := num % den
  if 2 * r < den then q
  else if den < 2 * r then q + 1
  else q + q % 2

def excess (units : Nat) : Nat := Nat.log2 units - 52

/-- The count of units of the number nearest to a quotient, with no bound on its size. -/
def roundedUnits (num den : Nat) : Nat :=
  let step := Nat.pow 2 (excess (num / den))
  roundedQuotient num (den * step) * step

def ofUnits (negative : Bool) (num den : Nat) : Binary64 :=
  let units := roundedUnits num den
  if units < limit then finite negative units else infinite negative

def ofInt (n : Int) : Binary64 := ofUnits (n < 0) (n.natAbs * one) 1

def ofDecimal (negative : Bool) (digits : Nat) (exponent : Int) : Binary64 :=
  if digits = 0 then finite negative 0
  else if 310 < exponent then infinite negative
  else if exponent + Nat.log2 digits / 3 < -400 then finite negative 0
  else
    match exponent with
    | .ofNat e => ofUnits negative (digits * Nat.pow 10 e * one) 1
    | .negSucc e => ofUnits negative (digits * one) (Nat.pow 10 (e + 1))

def product (a b : Nat) : Nat := roundedUnits (a * b) one

def quotient (a b : Nat) : Nat := roundedUnits (a * one) b

def signed (negative : Bool) (units : Nat) : Int :=
  if negative then -units else units

def le : Binary64 → Binary64 → Bool
  | nan, _ => false
  | _, nan => false
  | infinite true, _ => true
  | _, infinite false => true
  | infinite false, _ => false
  | _, infinite true => false
  | finite m a, finite n b => signed m a ≤ signed n b

/-- Equality of numbers: both zeros are equal, and a NaN differs from itself. -/
def same (a b : Binary64) : Bool := a.le b && b.le a

def isZero : Binary64 → Bool
  | finite _ units => units = 0
  | _ => false

def isNaN : Binary64 → Bool
  | nan => true
  | _ => false

def toBits : Binary64 → Nat
  | nan => 0x7FF8000000000000
  | infinite negative => (if negative then bitBound 63 else 0) + 0x7FF * bitBound 52
  | finite negative units =>
    let exponent := Nat.log2 units - 51
    let magnitude :=
      if units < bitBound 52 then units
      else exponent * bitBound 52 + (units / bitBound (exponent - 1) - bitBound 52)
    (if negative then bitBound 63 else 0) + magnitude

end Binary64
end InfraLint
