import InfraLint.Source.Declaration

/-!
Assignments of a literal text to an attribute whose name ends in `_name`. The source text is read
word by word: no assignment starts inside of a word that starts none.
-/
namespace InfraLint.Source
open Text

structure Assignment where
  target : String
  value : String
  deriving DecidableEq, Repr

def isNameVariable (w : List Char) : Bool :=
  "_name".toList.isSuffixOf (w.drop 1)

def assignedText? (s : List Char) : Option (List Char × List Char) := do
  let s ← after? ['='] (skipBlank s)
  quoted? '"' (skipBlank s)

/-- A word, with the assignment that it starts, if it starts one. -/
def wordOrAssignment? (s : List Char) : Option (Option Assignment × List Char) := do
  let (w, s) ← word? s
  match assignedText? s with
  | some (value, rest) =>
    if isNameVariable w then return (some ⟨.ofList w, .ofList value⟩, rest) else return (none, s)
  | none => return (none, s)

def assignments (content : String) : List Assignment :=
  (findAll wordOrAssignment? content.toList).filterMap id

end InfraLint.Source
