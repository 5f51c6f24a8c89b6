import InfraLint.Source.Block

/-!
The text of a tag map: what stands behind `tags` in a resource body, and the default of the
variable `tags`. A map ends at its first closing brace.
-/
namespace InfraLint.Source
open Text

def toBrace? (s : List Char) : Option (List Char × List Char) :=
  match s.dropWhile (· != '}') with
  | [] => none
  | _ :: rest => some (s.takeWhile (· != '}'), rest)

def assigned? (key : List Char) (s : List Char) : Option (List Char) := do
  let s ← after? key s
  let s ← after? ['='] (skipBlank s)
  return skipBlank s

def terraformTags? (s : List Char) : Option (List Char) := do
  let s ← assigned? "tags".toList s
  match after? ['{'] s with
  | some s =>
    let (inner, _) ← toBrace? s
    return '{' :: inner ++ ['}']
  | none =>
    let (inner, _) ← toBrace? (← after? ['$', '{'] s)
    return '$' :: '{' :: inner ++ ['}']

def bicepTags? (s : List Char) : Option (List Char) := do
  let s ← after? "tags:".toList s
  let (inner, _) ← toBrace? (← after? ['{'] (skipBlank s))
  return inner

def tagMap? (language : Language) (body : String) : Option String :=
  let recogniser := match language with
    | .terraform => terraformTags?
    | .bicep => bicepTags?
  (find? (fun _ => recogniser) none body.toList).map .ofList

def tagsVariable? (s : List Char) : Option (List Char) := do
  let s ← blank? (← after? "variable".toList s)
  let (body, _) ← braced? (← after? "\"tags\"".toList s)
  return body

def defaultMap? (s : List Char) : Option (List Char) := do
  let s ← assigned? "default".toList s
  let (inner, _) ← toBrace? (← after? ['{'] s)
  return inner

/-- The entries of the default value of the variable `tags`. Of several such variables the first
counts, and of several defaults in it the first. -/
def tagsDefault? (content : String) : Option String := do
  let body ← find? (fun _ => tagsVariable?) none content.toList
  let entries ← find? (fun _ => defaultMap?) none body
  return .ofList entries

end InfraLint.Source
