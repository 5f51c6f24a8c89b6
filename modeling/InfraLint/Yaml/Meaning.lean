import InfraLint.Numeric.Numeral
import InfraLint.Yaml.Node

/-!
What scalars mean: a plain scalar may be null, a boolean, a number or a text, by its form; a tag
may say which of them it is.
-/
namespace InfraLint.Yaml

inductive Meaning where
  | null
  | bool (b : Bool)
  | int (n : Int)
  | float (x : Binary64)
  | text (s : String)
  deriving DecidableEq, Repr

def isNull (s : String) : Bool := ["null", "Null", "NULL", "~"].contains s

def bool? (s : String) : Option Bool :=
  if ["true", "True", "TRUE"].contains s then some true
  else if ["false", "False", "FALSE"].contains s then some false
  else none

/-! Numbers -/

def digitValue? (radix : Nat) (c : Char) : Option Nat := do
  let n ←
    if c.isDigit then some (c.toNat - 48)
    else if 'a' ≤ c && c ≤ 'z' then some (c.toNat - 87)
    else if 'A' ≤ c && c ≤ 'Z' then some (c.toNat - 55)
    else none
  guard (n < radix)
  return n

def natural? (radix : Nat) (s : List Char) : Option Nat :=
  if s.isEmpty then none
  else s.foldlM (fun n c => (digitValue? radix c).map (n * radix + ·)) 0

def hasLeadingZero (s : List Char) : Bool :=
  match (takeSign s).2 with
  | '0' :: c :: rest => (c :: rest).all Char.isDigit
  | _ => false

def magnitude? (s : List Char) : Option Nat :=
  let radixed := match s with
    | '0' :: 'x' :: ds => natural? 16 ds
    | '0' :: 'o' :: ds => natural? 8 ds
    | '0' :: 'b' :: ds => natural? 2 ds
    | _ => none
  radixed.or (if hasLeadingZero s then none else natural? 10 s)

def integer? (s : List Char) : Option Int :=
  match s with
  | '-' :: ds => (magnitude? ds).map fun n => -(n : Int)
  | '+' :: ds => (magnitude? ds).map Int.ofNat
  | ds => (magnitude? ds).map Int.ofNat

def isWideInteger (n : Int) : Bool := fitsSigned 128 n || fitsUnsigned 128 n

def float? (s : List Char) : Option Binary64 :=
  let word := String.ofList s
  if [".inf", ".Inf", ".INF", "+.inf", "+.Inf", "+.INF"].contains word then some (.infinite false)
  else if ["-.inf", "-.Inf", "-.INF"].contains word then some (.infinite true)
  else if [".nan", ".NaN", ".NAN"].contains word then some .nan
  else
    match s with
    | '+' :: '+' :: _ | '+' :: '-' :: _ => none
    | s =>
      match Binary64.ofText? s with
      | some (.finite negative units) => some (.finite negative units)
      | _ => none

def plainMeaning (s : String) : Meaning :=
  let cs := s.toList
  if cs.isEmpty || isNull s then .null
  else
    match bool? s with
    | some b => .bool b
    | none =>
      match (integer? cs).filter isWideInteger with
      | some n => .int n
      | none =>
        match if hasLeadingZero cs then none else float? cs with
        | some x => .float x
        | none => .text s

/-! Tags -/

def boolTag : String := "tag:yaml.org,2002:bool"
def intTag : String := "tag:yaml.org,2002:int"
def floatTag : String := "tag:yaml.org,2002:float"
def nullTag : String := "tag:yaml.org,2002:null"

structure TagFault where
  text : String
  expected : String

/-- The meaning of a scalar. A tag of an own kind leaves the form to decide, if the scalar is
plain; any other tag makes a text of it. -/
def meaning (tag : Option String) (style : Style) (s : String) : Except TagFault Meaning :=
  let byForm : Meaning := if style = .plain then plainMeaning s else .text s
  match tag with
  | none => .ok byForm
  | some tag =>
    if tag = boolTag then
      match bool? s with
      | some b => .ok (.bool b)
      | none => .error ⟨s, "a boolean"⟩
    else if tag = intTag then
      match (integer? s.toList).filter isWideInteger with
      | some n => .ok (.int n)
      | none => .error ⟨s, "an integer"⟩
    else if tag = floatTag then
      match float? s.toList with
      | some x => .ok (.float x)
      | none => .error ⟨s, "a float"⟩
    else if tag = nullTag then
      if isNull s then .ok .null else .error ⟨s, "null"⟩
    else if "!".isPrefixOf tag then .ok byForm
    else .ok (.text s)

end InfraLint.Yaml
