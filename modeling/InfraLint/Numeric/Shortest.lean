import InfraLint.Numeric.Binary64

/-!
Decimal text of numbers: the fewest digits that read back as the number, and of those the
nearest to it.
-/
namespace InfraLint

structure Decimal where
  digits : Nat
  exponent : Int
  deriving DecidableEq, Repr

namespace Binary64

/-- The count of units as a quotient by a power of ten, `10 ^ exponent` being one grid step. -/
def onGrid (units : Nat) (exponent : Int) : Nat × Nat :=
  match exponent with
  | .ofNat e => (units, one * Nat.pow 10 e)
  | .negSucc e => (units * Nat.pow 10 (e + 1), one)

def readsBack (units steps : Nat) (exponent : Int) : Bool :=
  ofDecimal false steps exponent == finite false units

/-- Of the two neighbours on a grid the one that reads back; of both the nearer, of equally near
ones the even. -/
def neighbour? (units : Nat) (exponent : Int) : Option Nat :=
  let (num, den) := onGrid units exponent
  let low := num / den
  let near := roundedQuotient num den
  let far := if near = low then low + 1 else low
  [near, far].find? (readsBack units · exponent)

def placeBelowOne (units : Nat) : Nat → Nat → Nat
  | 0, place => place
  | fuel + 1, place =>
    if one ≤ units * Nat.pow 10 place then place else placeBelowOne units fuel (place + 1)

def leadingPlace (units : Nat) : Int :=
  if one ≤ units then Int.ofNat ((Nat.toDigits 10 (units / one)).length - 1)
  else -Int.ofNat (placeBelowOne units 324 1)

def shortest (units : Nat) : Decimal :=
  let place := leadingPlace units
  let candidates := (List.range 17).filterMap fun (k : Nat) =>
    (neighbour? units (place - k)).map fun digits => Decimal.mk digits (place - k)
  match candidates with
  | d :: _ => d
  | [] => ⟨units, -1074⟩

end Binary64

namespace Decimal

def trimmed (d : Decimal) : Decimal :=
  let rec go : Nat → Nat → Int → Decimal
    | 0, digits, exponent => ⟨digits, exponent⟩
    | fuel + 1, digits, exponent =>
      if digits % 10 = 0 && digits != 0 then go fuel (digits / 10) (exponent + 1)
      else ⟨digits, exponent⟩
  go d.digits.log2 d.digits d.exponent

end Decimal

/-- How the text of a number is laid out. Numbers whose first digit stands between the two places
are written out in full, others with an exponent. -/
structure NumberLayout where
  leastPlace : Int
  greatestPlace : Int
  nan : String
  infinity : String

namespace NumberLayout

def exponentText (e : Int) : String :=
  let digits := toString e.natAbs
  (if e < 0 then "e-" else "e+") ++ (if digits.length < 2 then "0" else "") ++ digits

def zeros (n : Nat) : String := .ofList (List.replicate n '0')

def positional (digits : String) (exponent : Int) : String :=
  match exponent with
  | .ofNat e => digits ++ zeros e ++ ".0"
  | .negSucc e =>
    let places := e + 1
    let padded := zeros (places + 1 - digits.length) ++ digits
    let (whole, fraction) := padded.toList.splitAt (padded.length - places)
    .ofList whole ++ "." ++ .ofList fraction

def magnitude (layout : NumberLayout) (units : Nat) : String :=
  if units = 0 then "0.0"
  else
    let d := (Binary64.shortest units).trimmed
    let digits := toString d.digits
    let place := d.exponent + digits.length - 1
    if layout.leastPlace ≤ place && place ≤ layout.greatestPlace then
      positional digits d.exponent
    else
      match digits.toList with
      | [] => ""
      | first :: [] => String.singleton first ++ exponentText place
      | first :: rest => String.singleton first ++ "." ++ .ofList rest ++ exponentText place

def write (layout : NumberLayout) : Binary64 → String
  | .nan => layout.nan
  | .infinite negative => (if negative then "-" else "") ++ layout.infinity
  | .finite negative units => (if negative then "-" else "") ++ layout.magnitude units

end NumberLayout
end InfraLint
