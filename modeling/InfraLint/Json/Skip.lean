import InfraLint.Json.Read

/-!
Passing over a value that nobody asks for. The value is checked less strictly than when it is
read: it may nest to any depth, its numbers may have any size, and its escapes need not make up
characters.
-/
namespace InfraLint.Json.Reader

def skipString : Nat → Reader Unit
  | 0 => fail .eofInString
  | fuel + 1 => do
    match ← peek with
    | none => fail .eofInString
    | some '"' => advance
    | some '\\' =>
      advance
      match ← peek with
      | none => fail .eofInString
      | some 'u' =>
        advance
        let _ ← hex4
        skipString fuel
      | some c =>
        if (shortEscape? c).isSome then
          advance
          skipString fuel
        else failAhead .invalidEscape
    | some c =>
      if c.toNat < 32 then fail .controlCharacter
      else
        advance
        skipString fuel

def skipExponent : Reader Unit := do
  advance
  match ← peek with
  | some '+' | some '-' => advance
  | _ => pure ()
  match ← peekDigits, ← peek with
  | [], none => fail .invalidNumber
  | [], some _ => failAhead .invalidNumber
  | ds, _ => take ds.length

def skipNumber : Reader Unit := do
  match ← peekDigits, ← peek with
  | [], none => fail .invalidNumber
  | [], some _ => failAhead .invalidNumber
  | '0' :: _ :: _, _ =>
    advance
    failAhead .invalidNumber
  | ds, _ => take ds.length
  match ← peek with
  | some '.' =>
    advance
    let count ← skipDigits
    if count = 0 then failAhead .invalidNumber
    match ← peek with
    | some 'e' | some 'E' => skipExponent
    | _ => pure ()
  | some 'e' | some 'E' => skipExponent
  | _ => pure ()

def skipKey (fuel : Nat) (bracket : Char) : Reader Unit := do
  if bracket = '\x7b' then
    match ← peekPastWhite with
    | some '"' => advance
    | some _ => failAhead .keyNotString
    | none => failAhead .eofInObject
    skipString fuel
    colon

/-- Goes on to the next value inside the open brackets, closing those that close here. No bracket
stays open where no value is left. `comma` says whether one may come next. -/
def skipToNext (fuel : Nat) : Bool → List Char → Reader (List Char)
  | _, [] => return []
  | comma, bracket :: outer => do
    let isList := bracket = '['
    match ← peekPastWhite with
    | none => failAhead (if isList then .eofInList else .eofInObject)
    | some c =>
      if comma && c = ',' then
        advance
        skipKey fuel bracket
        return bracket :: outer
      else if c = (if isList then ']' else '\x7d') then
        advance
        skipToNext fuel true outer
      else if comma then
        failAhead (if isList then .expectedListCommaOrEnd else .expectedObjectCommaOrEnd)
      else
        skipKey fuel bracket
        return bracket :: outer

def skipOne (fuel : Nat) (opened : List Char) : Reader (Bool × List Char) := do
  match ← peekPastWhite with
  | none => failAhead .eofInValue
  | some c =>
    if c = '[' || c = '\x7b' then
      advance
      return (false, c :: opened)
    else
      match c with
      | 'n' => do advance; word "ull".toList
      | 't' => do advance; word "rue".toList
      | 'f' => do advance; word "alse".toList
      | '"' => do advance; skipString fuel
      | '-' => do advance; skipNumber
      | _ => if c.isDigit then skipNumber else failAhead .expectedValue
      return (true, opened)

def skipValues (fuel : Nat) : Nat → List Char → Reader Unit
  | 0, _ => pure ()
  | left + 1, opened => do
    let (comma, opened) ← skipOne fuel opened
    let opened ← skipToNext fuel comma opened
    if !opened.isEmpty then skipValues fuel left opened

def skipValue (fuel : Nat) : Reader Unit := skipValues fuel fuel []

end InfraLint.Json.Reader
