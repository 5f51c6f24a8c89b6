import InfraLint.Json.Error
import InfraLint.Json.Value
import InfraLint.Numeric.Numeral

/-!
Reading JSON values. The first fault ends the reading and is reported with its place. Lists and
objects nest 127 levels deep at most.
-/
namespace InfraLint.Json

/-- A reading that ended. A fault of the content of a list or object waits for its place until
the rest of that list or object has been looked at. -/
inductive Failure where
  | placed (fault : Fault) (place : Place)
  | waiting (fault : Fault) (cursor : Cursor)

abbrev Reader := StateT Cursor (Except Failure)

def deepest : Nat := 127

namespace Reader

def peek : Reader (Option Char) := fun c => .ok (c.rest.head?, c)

def advance : Reader Unit := fun c => .ok ((), c.advance)

def skipWhite : Reader Unit := fun c => .ok ((), c.skipWhite)

def fail (fault : Fault) : Reader α := fun c => .error (.placed fault c.place)

def failAhead (fault : Fault) : Reader α := fun c => .error (.placed fault c.ahead)

def wait (fault : Fault) : Reader α := fun c => .error (.waiting fault c)

def peekPastWhite : Reader (Option Char) := do
  skipWhite
  peek

/-! Words, strings and numbers -/

def word : List Char → Reader Unit
  | [] => pure ()
  | c :: w => do
    match ← peek with
    | none => fail .eofInValue
    | some d =>
      if c = d then
        advance
        word w
      else failAhead .expectedIdent

def hexDigit? (c : Char) : Option Nat :=
  if c.isDigit then some (c.toNat - 48)
  else if 'a' ≤ c && c ≤ 'f' then some (c.toNat - 87)
  else if 'A' ≤ c && c ≤ 'F' then some (c.toNat - 55)
  else none

/-- Four hexadecimal digits. Where they are not, the fault is placed behind four bytes. -/
def hex4 : Reader Nat := fun c =>
  match (c.rest.take 4).mapM hexDigit? with
  | some [a, b, d, e] =>
    .ok (((a * 16 + b) * 16 + d) * 16 + e, c.advance.advance.advance.advance)
  | _ =>
    let (place, complete) := Cursor.bytesAhead c.place 4 c.rest
    .error (.placed (if complete then .invalidEscape else .eofInString) place)

def lowSurrogate (high : Nat) : Reader Char := do
  for c in ['\\', 'u'] do
    match ← peek with
    | none => fail .eofInString
    | some d => if c = d then advance else failAhead .endOfHexEscape
  let low ← hex4
  if 0xDC00 ≤ low && low ≤ 0xDFFF then
    return Char.ofNat (0x10000 + (high - 0xD800) * 0x400 + (low - 0xDC00))
  else fail .loneSurrogate

def shortEscape? : Char → Option Char
  | '"' => some '"'
  | '\\' => some '\\'
  | '/' => some '/'
  | 'b' => some '\x08'
  | 'f' => some '\x0C'
  | 'n' => some '\n'
  | 'r' => some '\r'
  | 't' => some '\t'
  | _ => none

def escape : Reader Char := do
  match ← peek with
  | none => fail .eofInString
  | some 'u' =>
    advance
    let n ← hex4
    if 0xDC00 ≤ n && n ≤ 0xDFFF then fail .loneSurrogate
    else if 0xD800 ≤ n && n ≤ 0xDBFF then lowSurrogate n
    else return Char.ofNat n
  | some c =>
    match shortEscape? c with
    | some d =>
      advance
      return d
    | none => failAhead .invalidEscape

def stringFrom : Nat → List Char → Reader String
  | 0, _ => fail .eofInString
  | fuel + 1, read => do
    match ← peek with
    | none => fail .eofInString
    | some '"' =>
      advance
      return .ofList read.reverse
    | some '\\' =>
      advance
      stringFrom fuel ((← escape) :: read)
    | some c =>
      if c.toNat < 32 then failAhead .controlCharacter
      else
        advance
        stringFrom fuel (c :: read)

def string : Reader String := fun c => stringFrom (c.rest.length + 1) [] c

def take (count : Nat) : Reader Unit := fun c =>
  .ok ((), ⟨⟨c.place.line, c.place.column + count⟩, c.rest.drop count⟩)

def peekDigits : Reader (List Char) := fun c => .ok (c.rest.takeWhile Char.isDigit, c)

def skipDigits : Reader Nat := do
  let ds ← peekDigits
  take ds.length
  return ds.length

def digitsBelow (bound : Nat) (value : Nat) : List Char → Nat × Nat
  | [] => (value, 0)
  | c :: ds =>
    let longer := value * 10 + (c.toNat - 48)
    if longer < bound then
      let (value, count) := digitsBelow bound longer ds
      (value, count + 1)
    else (value, 0)

def scaled : Nat → Nat → Int → Option Nat
  | 0, units, _ => some units
  | fuel + 1, units, exponent =>
    if exponent.natAbs ≤ 308 then
      let power := Binary64.roundedUnits (Nat.pow 10 exponent.natAbs * Binary64.one) 1
      if exponent < 0 then some (Binary64.quotient units power)
      else
        let units := Binary64.product units power
        if units < Binary64.limit then some units else none
    else if units = 0 then some 0
    else if 0 < exponent then none
    else
      let power := Binary64.roundedUnits (Nat.pow 10 308 * Binary64.one) 1
      scaled fuel (Binary64.quotient units power) (exponent + 308)

def float (negative : Bool) (significand : Nat) (exponent : Int) : Reader Json := do
  let units := Binary64.roundedUnits (significand * Binary64.one) 1
  match scaled 12 units exponent with
  | some units => return .float (.finite negative units)
  | none => fail .numberOutOfRange

def exponent (negative : Bool) (significand : Nat) (scale : Int) : Reader Json := do
  advance
  let down ← match ← peek with
    | some '+' => do advance; pure false
    | some '-' => do advance; pure true
    | _ => pure false
  let ds ← peekDigits
  match ds, ← peek with
  | [], none => fail .eofInValue
  | [], some _ => failAhead .invalidNumber
  | ds, _ =>
    let (value, count) := digitsBelow (bitBound 31) 0 ds
    if count = ds.length then
      take count
      float negative significand (if down then scale - value else scale + value)
    else if significand ≠ 0 && !down then
      take (count + 1)
      fail .numberOutOfRange
    else
      take ds.length
      return .float (.finite negative 0)

def fraction (negative : Bool) (significand : Nat) (scale : Int) : Reader Json := do
  advance
  match ← peekDigits, ← peek with
  | [], none => failAhead .eofInValue
  | [], some _ => failAhead .invalidNumber
  | ds, _ =>
    let (significand, count) := digitsBelow (bitBound 64) significand ds
    take ds.length
    match ← peek with
    | some 'e' | some 'E' => exponent negative significand (scale - count)
    | _ => float negative significand (scale - count)

def afterInteger (negative : Bool) (significand : Nat) : Reader Json := do
  match ← peek with
  | some '.' => fraction negative significand 0
  | some 'e' | some 'E' => exponent negative significand 0
  | _ =>
    if !negative then return .int significand
    else if significand = 0 || bitBound 63 < significand then
      return .float (.finite true (Binary64.roundedUnits (significand * Binary64.one) 1))
    else return .int (-significand)

def number (negative : Bool) : Reader Json := do
  match ← peekDigits, ← peek with
  | [], none => fail .eofInValue
  | [], some _ => failAhead .invalidNumber
  | ['0'], _ =>
    advance
    afterInteger negative 0
  | '0' :: _, _ =>
    advance
    failAhead .invalidNumber
  | ds, _ =>
    let (significand, count) := digitsBelow (bitBound 64) 0 ds
    take ds.length
    if count = ds.length then afterInteger negative significand
    else
      let more := ds.length - count
      match ← peek with
      | some '.' => fraction negative significand more
      | some 'e' | some 'E' => exponent negative significand more
      | _ => float negative significand more

/-! Lists and objects -/

def endList : Reader Unit := do
  match ← peekPastWhite with
  | some ']' => advance
  | some ',' =>
    advance
    match ← peekPastWhite with
    | some ']' => failAhead .trailingComma
    | _ => failAhead .trailingCharacters
  | some _ => failAhead .trailingCharacters
  | none => failAhead .eofInList

def endObject : Reader Unit := do
  match ← peekPastWhite with
  | some '}' => advance
  | some ',' => failAhead .trailingComma
  | some _ => failAhead .trailingCharacters
  | none => failAhead .eofInObject

/-- The place that a reading reaches, whether it succeeds or not. A fault found by looking
ahead leaves the place where it is. -/
def endedAt (ending : Char) (c : Cursor) : Cursor :=
  let c := c.skipWhite
  match c.rest with
  | x :: _ =>
    if x = ending then c.advance
    else if x = ',' && ending = ']' then c.advance.skipWhite
    else c
  | [] => c

/-- A list or object from behind its opening bracket, and its end. A fault in the content wins
over one at the end, but waits for the end to give it its place. -/
def enclosed (content : Reader α) (ending : Char) : Reader α := fun c =>
  match content c with
  | .ok (a, c) =>
    match (if ending = ']' then endList else endObject) c with
    | .ok (_, c) => .ok (a, c)
    | .error e => .error e
  | .error (.waiting fault c) => .error (.placed fault (endedAt ending c).place)
  | .error e => .error e

def anotherItem (first : Bool) : Reader Bool := do
  match ← peekPastWhite with
  | none => failAhead .eofInList
  | some ']' => return false
  | some ',' =>
    if first then return true
    else
      advance
      match ← peekPastWhite with
      | some ']' => failAhead .trailingComma
      | none => failAhead .eofInValue
      | some _ => return true
  | some _ => if first then return true else failAhead .expectedListCommaOrEnd

def anotherMember (first : Bool) : Reader Bool := do
  match ← peekPastWhite with
  | none => failAhead .eofInObject
  | some '}' => return false
  | some c =>
    if first then
      if c = '"' then
        advance
        return true
      else failAhead .keyNotString
    else if c = ',' then
      advance
      match ← peekPastWhite with
      | some '"' =>
        advance
        return true
      | some '}' => failAhead .trailingComma
      | some _ => failAhead .keyNotString
      | none => failAhead .eofInValue
    else failAhead .expectedObjectCommaOrEnd

def colon : Reader Unit := do
  match ← peekPastWhite with
  | some ':' => advance
  | some _ => failAhead .expectedColon
  | none => failAhead .eofInObject

def items (item : Reader α) : Nat → Bool → Reader (List α)
  | 0, _ => return []
  | fuel + 1, first => do
    if ← anotherItem first then
      let a ← item
      return a :: (← items item fuel false)
    else return []

def members (member : String → σ → Reader σ) : Nat → Bool → σ → Reader σ
  | 0, _, state => return state
  | fuel + 1, first, state => do
    if ← anotherMember first then
      let key ← string
      members member fuel false (← member key state)
    else return state

def memberValues (inner : Reader α) (fuel : Nat) : Reader (Members α) :=
  members (fun key ms => do
    colon
    return Members.insert key (← inner) ms) fuel true []

/-- A value, where `inner` reads the values inside of it, unless lists and objects are too deep
already. `fuel` bounds the items of one list. -/
def valueWith (fuel : Nat) (inner : Option (Reader Json)) : Reader Json := do
  match ← peekPastWhite with
  | none => failAhead .eofInValue
  | some c =>
    match c with
    | 'n' => do advance; word "ull".toList; return .null
    | 't' => do advance; word "rue".toList; return .bool true
    | 'f' => do advance; word "alse".toList; return .bool false
    | '"' => do advance; return .string (← string)
    | '-' => do advance; number true
    | '[' =>
      match inner with
      | none => failAhead .tooDeep
      | some inner => do
        advance
        return .array (← enclosed (items inner fuel true) ']')
    | '\x7b' =>
      match inner with
      | none => failAhead .tooDeep
      | some inner => do
        advance
        return .object (← enclosed (memberValues inner fuel) '}')
    | _ => if c.isDigit then number false else failAhead .expectedValue

def value (fuel : Nat) : Nat → Reader Json
  | 0 => valueWith fuel none
  | room + 1 => valueWith fuel (some (value fuel room))

def ended : Reader Unit := do
  match ← peekPastWhite with
  | none => pure ()
  | some _ => failAhead .trailingCharacters

def run (reader : Nat → Reader α) (text : String) : Except Error α :=
  let chars := text.toList
  match (do let a ← reader (chars.length + 1); ended; return a) (Cursor.start chars) with
  | .ok (a, _) => .ok a
  | .error (.placed fault place) => .error ⟨fault, some place⟩
  | .error (.waiting fault c) => .error ⟨fault, some c.place⟩

end Reader

def read (text : String) : Except Error Json :=
  Reader.run (fun fuel => Reader.value fuel deepest) text

end InfraLint.Json
