import InfraLint.Text.Blank
import InfraLint.Text.Search
import InfraLint.Text.Word

/-!
What a written tag map says about its `Project` key.
-/
namespace InfraLint.Source
open Text

inductive ProjectTag where
  | absent
  | literal (value : String)
  | reference
  deriving DecidableEq, Repr

def isInterpolated (value : String) : Bool := "$\x7b".occursIn value

def closed? (q : Char) (s : List Char) : Option (List Char) :=
  if q ∈ s then some (s.takeWhile (· != q)) else none

/-- What a value says that starts at this place: a closed quote is a literal, anything else that
is not empty a reference. -/
def projectValue? : List Char → Option ProjectTag
  | [] => none
  | c :: s =>
    if isBlank c || c == ',' || c == '}' then none
    else
      match if c == '"' || c == '\'' then closed? c s else none with
      | some value =>
        let value := String.ofList value
        some (if isInterpolated value then .reference else .literal value)
      | none => some .reference

def projectEntry? (before : Option Char) (s : List Char) : Option ProjectTag := do
  guard !(before.any isWord)
  let s ← after? "Project".toList s
  let s := match s with
    | c :: rest => if c == '"' || c == '\'' then rest else s
    | [] => s
  match skipBlank s with
  | c :: s => if c == '=' || c == ':' then projectValue? (skipBlank s) else none
  | [] => none

def projectTag (text : String) : ProjectTag :=
  (find? projectEntry? none text.toList).getD .absent

end InfraLint.Source
