import InfraLint.Json.Skip
import InfraLint.Numeric.Shortest
import InfraLint.Text.Quoted

/-!
Reading values of a known kind: strings, lists, maps and records with named fields. A value of
another kind is refused with a message that says what was found and what was wanted.
-/
namespace InfraLint.Json

def numberLayout : NumberLayout := ⟨-5, 15, "NaN", "inf"⟩

def describe : Json → String
  | .null => "null"
  | .bool b => "boolean \x60" ++ toString b ++ "\x60"
  | .int n => "integer \x60" ++ toString n ++ "\x60"
  | .float x => "floating point \x60" ++ numberLayout.write x ++ "\x60"
  | .string s => "string " ++ Text.quote s
  | .array _ => "sequence"
  | .object _ => "map"

namespace Reader

/-- Refuses the value that comes next. A scalar is read before it is refused. -/
def refuse (fuel : Nat) (expected : String) : Reader α := do
  match ← peekPastWhite with
  | some '[' => fail (.mismatch "sequence" expected)
  | some '\x7b' => fail (.mismatch "map" expected)
  | _ =>
    let found ← valueWith fuel none
    fail (.mismatch found.describe expected)

def stringValue (fuel : Nat) : Reader String := do
  match ← peekPastWhite with
  | none => failAhead .eofInValue
  | some '"' =>
    advance
    string
  | some _ => refuse fuel "a string"

def nested (room : Nat) (inner : Nat → Reader α) : Reader α :=
  match room with
  | 0 => failAhead .tooDeep
  | room + 1 => do
    advance
    inner room

def listOf (fuel room : Nat) (item : Nat → Reader α) : Reader (List α) := do
  match ← peekPastWhite with
  | none => failAhead .eofInValue
  | some '[' => nested room fun room => enclosed (items (item room) fuel true) ']'
  | some _ => refuse fuel "a sequence"

def mapOf (fuel room : Nat) (item : Nat → Reader α) : Reader (Members α) := do
  match ← peekPastWhite with
  | none => failAhead .eofInValue
  | some '\x7b' => nested room fun room => enclosed (memberValues (item room) fuel) '}'
  | some _ => refuse fuel "a map"

def record (fuel room : Nat) (name : String) (ofObject ofList : Nat → Reader α) : Reader α := do
  match ← peekPastWhite with
  | none => failAhead .eofInValue
  | some '[' => nested room fun room => enclosed (ofList room) ']'
  | some '\x7b' => nested room fun room => enclosed (ofObject room) '}'
  | some _ => refuse fuel ("struct " ++ name)

def field (name : String) (known : Option α) (value : Reader α) : Reader (Option α) := do
  if known.isSome then wait (.duplicateField name)
  colon
  return some (← value)

def skipMember (fuel : Nat) : Reader Unit := do
  colon
  skipValue fuel

def required (name : String) : Option α → Reader α
  | some a => pure a
  | none => wait (.missingField name)

def positional (first : Bool) (fault : Fault) (value : Reader α) : Reader α := do
  if ← anotherItem first then value else wait fault

end Reader
end InfraLint.Json
