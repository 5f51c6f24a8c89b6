import InfraLint.Source.Declaration

/-!
Resource blocks: a declaration with its body. A body ends at the brace that matches its opening
one, and may nest braces two levels deep; a deeper block is not taken, nor one that never closes.
Braces count wherever they stand, in quoted texts and comments too.
-/
namespace InfraLint.Source
open Text

structure Block extends Declaration where
  body : String
  deriving DecidableEq, Repr

def innerLevels : Nat := 2

/-- The text up to the brace that closes the current block, and the text behind that brace.
`depth` inner levels are open, and there may be `levels` of them. -/
def closing? (levels : Nat) : Nat → List Char → Option (List Char × List Char)
  | _, [] => none
  | depth, c :: s =>
    if c = '}' then
      match depth with
      | 0 => some ([], s)
      | depth + 1 => (closing? levels depth s).map fun (body, rest) => (c :: body, rest)
    else if c = '{' then
      if depth < levels then
        (closing? levels (depth + 1) s).map fun (body, rest) => (c :: body, rest)
      else none
    else (closing? levels depth s).map fun (body, rest) => (c :: body, rest)

def braced? (s : List Char) : Option (List Char × List Char) := do
  closing? innerLevels 0 (← after? ['{'] (skipBlank s))

def block? (language : Language) (s : List Char) : Option (Block × List Char) := do
  let (d, s) ← header? language s
  let (body, s) ← braced? s
  return (⟨d, .ofList body⟩, s)

def blocks (language : Language) (content : String) : List Block :=
  findAll (block? language) content.toList

end InfraLint.Source
