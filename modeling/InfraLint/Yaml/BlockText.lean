import InfraLint.Yaml.Cursor

/-!
Block scalars: texts of whole lines behind `|` or `>`, set off by their indent.
-/
namespace InfraLint.Yaml

inductive Chomping where
  | strip
  | clip
  | keep
  deriving DecidableEq

def chomping? : Char → Option Chomping
  | '-' => some .strip
  | '+' => some .keep
  | _ => none

def indentDigit? (c : Char) : Option Nat :=
  if c.isDigit && c != '0' then some (c.toNat - 48) else none

def header? (s : List Char) : Option (Chomping × Option Nat × Nat) :=
  match s with
  | [] => some (.clip, none, 0)
  | c :: s =>
    match chomping? c with
    | some chomping =>
      match s with
      | d :: _ =>
        if d.isDigit then (indentDigit? d).map fun n => (chomping, some n, 2)
        else some (chomping, none, 1)
      | [] => some (chomping, none, 1)
    | none =>
      if c.isDigit then
        (indentDigit? c).map fun n =>
          match s.head?.bind chomping? with
          | some chomping => (chomping, some n, 2)
          | none => (.clip, some n, 1)
      else some (.clip, none, 0)

/-- Empty lines and the indent of the line behind them. `indent` is none as long as it is not
known, and `widest` the longest indent so far. The answer holds the breaks, the cursor and the
longest indent. A tab must not stand in the indent. -/
def blankLines? (indent : Option Nat) : Nat → Nat → Cursor → Option (List Char × Cursor × Nat)
  | 0, widest, c => some ([], c, widest)
  | fuel + 1, widest, c =>
    let spaces := (c.rest.takeWhile (· == ' ')).length
    let c := c.right (match indent with
      | none => spaces
      | some n => min spaces (n - c.mark.column))
    let widest := max widest c.mark.column
    if c.rest.head? = some '\t' && indent.all (c.mark.column < ·) then none
    else
      match c.lineBreak? with
      | none => some ([], c, widest)
      | some (b, c) =>
        (blankLines? indent fuel widest c).map fun (bs, c, widest) => (b :: bs, c, widest)

/-- The break between two lines of a folded text, `between` being the breaks of the empty lines
that follow it. It gives way to a space, or to those breaks, where neither line starts with a
blank. -/
def foldedBreak (literal : Bool) (break_ : List Char) (between : List Char)
    (blankBefore blankAfter : Bool) : List Char :=
  if !literal && break_.head? = some '\n' && !blankBefore && !blankAfter then
    if between.isEmpty then [' '] else between
  else break_ ++ between

def linesFrom? (literal : Bool) (chomping : Chomping) (indent : Nat) : Nat → List Char →
    List Char → Bool → Cursor → Option (List Char × Cursor)
  | 0, _, _, _, _ => none
  | fuel + 1, break_, between, blankBefore, c =>
    if c.mark.column = indent && !c.rest.isEmpty then do
      let blank := c.rest.head?.any isBlank
      let front := foldedBreak literal break_ between blankBefore blank
      let (line, c) := c.takeWhile (!isBreak ·)
      let (break_, c) := match c.lineBreak? with
        | some (b, c) => ([b], c)
        | none => ([], c)
      let (between, c, _) ← blankLines? (some indent) (c.rest.length + 1) 0 c
      let (more, c) ← linesFrom? literal chomping indent fuel break_ between blank c
      return (front ++ line ++ more, c)
    else
      let tail := match chomping with
        | .strip => []
        | .clip => break_
        | .keep => break_ ++ between
      some (tail, c)

def blockText? (literal : Bool) (outer : Int) (c : Cursor) : Option (String × Cursor) := do
  let c := c.right 1
  let (chomping, increment, count) ← header? c.rest
  let (_, c) := (c.right count).takeWhile isBlank
  let (_, c) := if c.rest.head? = some '#' then c.takeWhile (!isBreak ·) else ([], c)
  let c ← match c.rest with
    | [] => some c
    | _ => (c.lineBreak?).map (·.2)
  let known : Option Nat := increment.map fun n => (max outer 0).toNat + n
  let (between, c, widest) ← blankLines? known (c.rest.length + 1) 0 c
  let indent := known.getD (max (max widest (outer + 1).toNat) 1)
  let (text, c) ← linesFrom? literal chomping indent (c.rest.length + 1) [] between false c
  return (.ofList text, c)

end InfraLint.Yaml
