import InfraLint.Json.Typed

/-!
JSON text of values, laid out over several lines with an indent of two spaces per level.
-/
namespace InfraLint.Json

def escapedChar (c : Char) : List Char :=
  match c with
  | '"' => ['\\', '"']
  | '\\' => ['\\', '\\']
  | '\x08' => ['\\', 'b']
  | '\x0C' => ['\\', 'f']
  | '\n' => ['\\', 'n']
  | '\r' => ['\\', 'r']
  | '\t' => ['\\', 't']
  | c =>
    if c.toNat < 32 then
      ['\\', 'u', '0', '0', Nat.digitChar (c.toNat / 16), Nat.digitChar (c.toNat % 16)]
    else [c]

def printString (s : String) : List Char :=
  '"' :: s.toList.flatMap escapedChar ++ ['"']

def newLine (level : Nat) : List Char := '\n' :: List.replicate (2 * level) ' '

mutual

def printAt (level : Nat) : Json → List Char
  | null => "null".toList
  | bool b => (toString b).toList
  | int n => (toString n).toList
  | float x => (numberLayout.write x).toList
  | string s => printString s
  | array [] => "[]".toList
  | array (a :: rest) =>
    '[' :: newLine (level + 1) ++ printAt (level + 1) a ++ printItems (level + 1) rest ++
      newLine level ++ [']']
  | object [] => "\x7b\x7d".toList
  | object ((k, a) :: rest) =>
    '\x7b' :: newLine (level + 1) ++ printString k ++ ':' :: ' ' :: printAt (level + 1) a ++
      printMembers (level + 1) rest ++ newLine level ++ ['\x7d']

def printItems (level : Nat) : List Json → List Char
  | [] => []
  | a :: rest => ',' :: newLine level ++ printAt level a ++ printItems level rest

def printMembers (level : Nat) : List (String × Json) → List Char
  | [] => []
  | (k, a) :: rest =>
    ',' :: newLine level ++ printString k ++ ':' :: ' ' :: printAt level a ++
      printMembers level rest

end

def print (j : Json) : String := .ofList (j.printAt 0)

end InfraLint.Json
