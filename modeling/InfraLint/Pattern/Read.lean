import InfraLint.Numeric.Width
import InfraLint.Pattern.Basic
import InfraLint.Pattern.Property
import InfraLint.Text.Search

/-!
Reading patterns from their text. Reading fails where the text is no pattern, nests too deep, or
would need an automaton too large; the reason is not kept.
-/
namespace InfraLint.Pattern
open Text

structure Modes where
  ignoreCase : Bool := false
  multiLine : Bool := false
  dotAll : Bool := false
  anyLineBreak : Bool := false
  spaced : Bool := false
  unicode : Bool := true
  table : PropertyTable

def deepest : Nat := 250

/-- Bytes that the automaton of a pattern may take, where the weight of a pattern is an estimate. -/
def heaviest : Nat := 10 * 1024 * 1024

structure Piece where
  pattern : Pattern
  depth : Nat
  weight : Nat
  repeatable : Bool := true

namespace Piece

def ofClass (cls : CharClass) : Piece := ⟨.chars cls, 0, 32 + cls.weight, true⟩

def ofAnchor (a : Anchor) : Piece := ⟨.anchor a, 0, 0, true⟩

def silent : Piece := ⟨.empty, 0, 0, false⟩

def joined (combine : List Pattern → Pattern) : List Piece → Piece
  | [] => ⟨.empty, 0, 0, true⟩
  | [p] => { p with repeatable := true }
  | ps => ⟨combine (ps.map (·.pattern)), (ps.map (·.depth)).foldl max 0 + 1,
      (ps.map (·.weight)).foldl (· + ·) 0, true⟩

def concatenation : List Piece → Piece := joined sequence

def alternation : List Piece → Piece :=
  joined fun ps => match ps with
    | [] => .empty
    | p :: ps => ps.foldl .alt p

def enclosed (p : Piece) : Piece := { p with depth := p.depth + 1 }

end Piece

def isZeroWidth : Pattern → Bool
  | .empty => true
  | .anchor _ => true
  | .chars _ => false
  | .seq p q => p.isZeroWidth && q.isZeroWidth
  | .alt p q => p.isZeroWidth && q.isZeroWidth
  | .star p => p.isZeroWidth

def Piece.repeated? (p : Piece) (least : Nat) (most : Option Nat) : Option Piece := do
  guard p.repeatable
  let zeroWidth := p.pattern.isZeroWidth
  let least := if zeroWidth then min least 1 else least
  let most := if zeroWidth then some (min (most.getD 1) 1) else most
  let weight := match most with
    | some most => least * p.weight + (most - least) * (p.weight + 32)
    | none => max least 1 * p.weight + 64
  guard (weight ≤ heaviest)
  return ⟨p.pattern.repeated least most, p.depth + 1, weight, true⟩

/-! Blanks and comments -/

def skipSpaced (inComment : Bool) : List Char → List Char
  | [] => []
  | c :: s =>
    if inComment then skipSpaced (c != '\n') s
    else if c == '#' then skipSpaced true s
    else if isBlank c then skipSpaced false s
    else c :: s

def Modes.skip (m : Modes) (s : List Char) : List Char :=
  if m.spaced then skipSpaced false s else s

def Modes.next? (m : Modes) (s : List Char) : Option (List Char) :=
  match m.skip (s.drop 1) with
  | [] => none
  | s => some s

/-! Characters and escapes -/

def CharClass.anyAsciiCase (a : CharClass) : CharClass := .both (.range 0 127) (.anyCase a)

def Modes.foldCase (m : Modes) (a : CharClass) : CharClass :=
  if !m.ignoreCase then a else if m.unicode then .anyCase a else a.anyAsciiCase

inductive Symbol where
  /-- `byte`: written as `\xNN`, which is one byte where Unicode is switched off. -/
  | char (c : Char) (byte : Bool)
  | cls (c : CharClass)
  | anchor (a : Anchor)

def Modes.literal? (m : Modes) (c : Char) (byte : Bool) : Option CharClass :=
  if m.unicode then some (m.foldCase (.one c))
  else if c.toNat < 128 then some (m.foldCase (.one c))
  else if byte && c.toNat < 256 then none
  else some (.one c)

def Modes.symbol? (m : Modes) : Symbol → Option Piece
  | .char c byte => (m.literal? c byte).map .ofClass
  | .cls c => some (.ofClass c)
  | .anchor a => some (.ofAnchor a)

def Modes.named? (m : Modes) (c : Char) : Option CharClass := do
  let inside : CharClass ← match c.toLower with
    | 'd' => some (if m.unicode then .digit else .ofRanges [('0', '9')])
    | 's' => some (if m.unicode then .blank else .ofRanges [('\t', '\r'), (' ', ' ')])
    | 'w' => some (if m.unicode then .word
        else .ofRanges [('0', '9'), ('A', 'Z'), ('_', '_'), ('a', 'z')])
    | _ => none
  if c.isLower then return inside
  guard m.unicode
  return .negated inside

def hexDigit? (c : Char) : Option Nat :=
  if c.isDigit then some (c.toNat - 48)
  else if 'a' ≤ c && c ≤ 'f' then some (c.toNat - 87)
  else if 'A' ≤ c && c ≤ 'F' then some (c.toNat - 55)
  else none

def scalar? (n : Nat) : Option Char :=
  if n.isValidChar then some (Char.ofNat n) else none

def Modes.hexDigits? (m : Modes) : Nat → Nat → List Char → Option (Nat × List Char)
  | 0, value, s => some (value, s)
  | _ + 1, _, [] => none
  | count + 1, value, c :: s => do
    hexDigits? m count (value * 16 + (← hexDigit? c)) (m.skip s)

def Modes.hexBraced? (m : Modes) (fuel : Nat) (digits : Nat) (value : Nat) (s : List Char) :
    Option (Nat × List Char) :=
  match fuel, s with
  | fuel + 1, c :: s =>
    if c == '}' then if digits = 0 then none else some (value, m.skip s)
    else do hexBraced? m fuel (digits + 1) (value * 16 + (← hexDigit? c)) (m.skip s)
  | _, _ => none

def Modes.hex? (m : Modes) (kind : Char) (s : List Char) : Option (Symbol × List Char) := do
  match m.skip s with
  | '\x7b' :: s =>
    let s := m.skip s
    let (value, s) ← m.hexBraced? s.length 0 0 s
    return (.char (← scalar? value) false, s)
  | s =>
    let count := if kind == 'x' then 2 else if kind == 'u' then 4 else 8
    let (value, s) ← m.hexDigits? count 0 s
    return (.char (← scalar? value) (kind == 'x'), s)

def Modes.property? (m : Modes) (negated : Bool) (s : List Char) : Option (Symbol × List Char) := do
  let (name, s) ← match m.skip s with
    | [] => none
    | '\x7b' :: s =>
      match s.dropWhile (· != '}') with
      | [] => none
      | _ :: rest => some (m.skip (s.takeWhile (· != '}')), rest)
    | c :: s => if c == '\\' then none else some ([c], m.skip s)
  guard m.unicode
  let cls := m.foldCase (← CharClass.ofProperty? m.table name)
  return (.cls (if negated then .negated cls else cls), s)

/-- The kind of word edge in braces behind `\b`. Where no letter follows the brace it is a
repetition, and nothing is read here. -/
def Modes.wordEdge? (m : Modes) (s : List Char) : Option (Symbol × List Char) := do
  let ascii := !m.unicode
  let isNameChar (c : Char) := c.isAlpha || c == '-'
  match s with
  | '\x7b' :: inner =>
    match m.skip inner with
    | [] => none
    | c :: t =>
      if !isNameChar c then return (.anchor (.wordEdge ascii), s)
      let name := (c :: t).takeWhile fun c => isNameChar c || m.spaced && isBlank c
      let rest ← after? ['}'] ((c :: t).drop name.length)
      let anchor ← match String.ofList (name.filter isNameChar) with
        | "start" => some (Anchor.wordStart ascii)
        | "end" => some (.wordEnd ascii)
        | "start-half" => some (.noWordBefore ascii)
        | "end-half" => some (.noWordAfter ascii)
        | _ => none
      return (.anchor anchor, rest)
  | _ => return (.anchor (.wordEdge ascii), s)

def Modes.escape? (m : Modes) : List Char → Option (Symbol × List Char)
  | [] => none
  | c :: s =>
    match c with
    | 'x' | 'u' | 'U' => m.hex? c s
    | 'p' => m.property? false s
    | 'P' => m.property? true s
    | 'a' => some (.char '\x07' false, s)
    | 'f' => some (.char '\x0C' false, s)
    | 't' => some (.char '\t' false, s)
    | 'n' => some (.char '\n' false, s)
    | 'r' => some (.char '\r' false, s)
    | 'v' => some (.char '\x0B' false, s)
    | 'A' => some (.anchor .textStart, s)
    | 'z' => some (.anchor .textEnd, s)
    | 'b' => m.wordEdge? s
    | 'B' => some (.anchor (.notWordEdge !m.unicode), s)
    | '<' => some (.anchor (.wordStart !m.unicode), s)
    | '>' => some (.anchor (.wordEnd !m.unicode), s)
    | _ =>
      match m.named? c with
      | some cls => some (.cls cls, s)
      | none => if c.toNat < 128 && !c.isAlphanum then some (.char c false, s) else none

def Modes.primitive? (m : Modes) : List Char → Option (Piece × List Char)
  | [] => none
  | '\\' :: s => do
    let (symbol, s) ← m.escape? s
    return (← m.symbol? symbol, s)
  | '.' :: s => do
    guard m.unicode
    let excluded : CharClass :=
      if m.dotAll then .empty
      else if m.anyLineBreak then .union (.one '\n') (.one '\r')
      else .one '\n'
    return (.ofClass (.negated excluded), s)
  | '^' :: s =>
    some (.ofAnchor (if !m.multiLine then .textStart
      else if m.anyLineBreak then .anyLineStart else .lineStart), s)
  | '$' :: s =>
    some (.ofAnchor (if !m.multiLine then .textEnd
      else if m.anyLineBreak then .anyLineEnd else .lineEnd), s)
  | c :: s => do return (.ofClass (← m.literal? c false), s)

/-! Classes in brackets -/

inductive SetOperator where
  | intersection
  | difference
  | symmetricDifference

def SetOperator.apply : SetOperator → CharClass → CharClass → CharClass
  | intersection => .both
  | difference => .difference
  | symmetricDifference => .symmetricDifference

structure OpenSet where
  left : Option (SetOperator × CharClass × Nat) := none
  parts : List (CharClass × Nat) := []

namespace OpenSet

def add (set : OpenSet) (cls : CharClass) (depth : Nat) : OpenSet :=
  { set with parts := set.parts ++ [(cls, depth)] }

def close (m : Modes) (set : OpenSet) : CharClass × Nat :=
  let right : CharClass × Nat := match set.parts with
    | [] => (.empty, 0)
    | [part] => part
    | parts => (.ofList (parts.map (·.1)), (parts.map (·.2)).foldl max 0 + 1)
  match set.left with
  | none => right
  | some (operator, cls, depth) =>
    (operator.apply (m.foldCase cls) (m.foldCase right.1), max depth right.2 + 1)

def operate (m : Modes) (set : OpenSet) (operator : SetOperator) : OpenSet :=
  ⟨some (operator, set.close m), []⟩

end OpenSet

def asciiClass? (s : List Char) : Option (CharClass × List Char) := do
  let s ← after? "[:".toList s
  let (negated, s) := match s with
    | '^' :: s => (true, s)
    | s => (false, s)
  let cls ← CharClass.ofName? (.ofList (s.takeWhile (· != ':')))
  let s ← after? ":]".toList (s.dropWhile (· != ':'))
  return (if negated then .negated cls else cls, s)

def Modes.setSymbol? (m : Modes) : List Char → Option (Symbol × List Char)
  | [] => none
  | '\\' :: s => m.escape? s
  | c :: s => some (.char c false, s)

def Modes.setChar? (m : Modes) : Symbol → Option Char
  | .char c _ => if m.unicode || c.toNat < 128 then some c else none
  | _ => none

def Modes.setItem? (m : Modes) (s : List Char) : Option (CharClass × List Char) := do
  let (first, s) ← m.setSymbol? s
  let single : Option CharClass := match first with
    | .cls cls => some cls
    | first => (m.setChar? first).map .one
  match m.skip s with
  | [] => none
  | '-' :: s' =>
    match m.skip s' with
    | [] => none
    | ']' :: _ | '-' :: _ => return (← single, '-' :: s')
    | second =>
      let (last, rest) ← m.setSymbol? second
      let first ← m.setChar? first
      let last ← m.setChar? last
      guard (first ≤ last)
      return (.range first.toNat last.toNat, rest)
  | s => return (← single, s)

def Modes.openSet? (m : Modes) (s : List Char) : Option (Bool × OpenSet × List Char) := do
  let s ← m.next? s
  let (negated, s) ← match s with
    | '^' :: _ => (m.next? s).map (true, ·)
    | _ => some (false, s)
  let rec hyphens : Nat → OpenSet → List Char → Option (OpenSet × List Char)
    | fuel + 1, set, '-' :: s => do
      hyphens fuel (set.add (.one '-') 0) (← m.next? ('-' :: s))
    | _, set, s => some (set, s)
  let (set, s) ← hyphens s.length {} s
  match set.parts, s with
  | [], ']' :: _ => return (negated, set.add (.one ']') 0, ← m.next? s)
  | _, _ => return (negated, set, s)

mutual

/-- A class in brackets, with the depth of its nesting. `fuel` bounds the number of its items,
nested ones included, each of which takes a character at least. -/
def Modes.set? (m : Modes) : Nat → List Char → Option (CharClass × Nat × List Char)
  | 0, _ => none
  | fuel + 1, s => do
    let (negated, set, s) ← m.openSet? s
    let (set, s) ← setItems? m fuel set s
    let (cls, depth) := set.close m
    let cls := m.foldCase cls
    let cls := if negated then .negated cls else cls
    if m.unicode || cls.withinAscii then return (cls, depth + 1, s) else none

def Modes.setItems? (m : Modes) : Nat → OpenSet → List Char → Option (OpenSet × List Char)
  | 0, _, _ => none
  | fuel + 1, set, s =>
    match m.skip s with
    | [] => none
    | ']' :: s => some (set, s)
    | '&' :: '&' :: s => setItems? m fuel (set.operate m .intersection) s
    | '-' :: '-' :: s => setItems? m fuel (set.operate m .difference) s
    | '~' :: '~' :: s => setItems? m fuel (set.operate m .symmetricDifference) s
    | '[' :: s =>
      match asciiClass? ('[' :: s) with
      | some (cls, s) => setItems? m fuel (set.add cls 0) s
      | none => do
        let (cls, depth, s) ← set? m fuel ('[' :: s)
        setItems? m fuel (set.add cls depth) s
    | s => do
      let (cls, s) ← m.setItem? s
      setItems? m fuel (set.add cls 0) s

end

/-! Repetitions, groups and the whole -/

def Modes.decimal? (m : Modes) (s : List Char) : Option (Nat × List Char) := do
  let s := skipBlank s
  let isPart (c : Char) := c.isDigit || m.spaced && isBlank c
  let digits := (s.takeWhile isPart).filter Char.isDigit
  guard !digits.isEmpty
  let value : Nat := digits.foldl (fun n c => n * 10 + (c.toNat - 48)) 0
  guard (fitsUnsigned 32 value)
  return (value, m.skip (skipBlank (s.dropWhile isPart)))

def Modes.bounds? (m : Modes) (s : List Char) : Option (Nat × Option Nat × List Char) := do
  let (least, s) ← m.decimal? (m.skip s)
  match s with
  | ',' :: s =>
    match m.skip s with
    | '}' :: s => return (least, none, s)
    | s =>
      let (most, s) ← m.decimal? s
      let s ← after? ['}'] s
      guard (least ≤ most)
      return (least, some most, s)
  | '}' :: s => return (least, some least, s)
  | _ => none

/-- A question mark behind a repetition makes it lazy, which changes nothing here. -/
def skipLazy : List Char → List Char
  | '?' :: s => s
  | s => s

def Modes.switch? (m : Modes) (on : Bool) (seen : List Char) :
    List Char → Option (Modes × Char × List Char)
  | [] => none
  | c :: s =>
    if c == ':' then if seen.head? = some '-' then none else some (m, c, s)
    else if c == ')' then
      if seen.isEmpty || seen.head? = some '-' then none else some (m, c, s)
    else if seen.contains c then none
    else
      let seen := c :: seen
      match c with
      | '-' => m.switch? false seen s
      | 'i' => { m with ignoreCase := on }.switch? on seen s
      | 'm' => { m with multiLine := on }.switch? on seen s
      | 's' => { m with dotAll := on }.switch? on seen s
      | 'R' => { m with anyLineBreak := on }.switch? on seen s
      | 'x' => { m with spaced := on }.switch? on seen s
      | 'u' => { m with unicode := on }.switch? on seen s
      | 'U' => m.switch? on seen s
      | _ => none

def groupName? (s : List Char) : Option (List Char × List Char) := do
  let name := s.takeWhile (· != '>')
  let isNameChar (c : Char) := isWord c || c == '.' || c == '[' || c == ']'
  match name with
  | [] => none
  | c :: _ => guard (isWord c && !isDecimalDigit c && name.all isNameChar)
  let s ← after? ['>'] (s.dropWhile (· != '>'))
  return (name, s)

structure Scope where
  modes : Modes
  names : List (List Char) := []

inductive Opening where
  | group (scope : Scope)
  | switch (modes : Modes)

def Scope.open? (scope : Scope) (s : List Char) : Option (Opening × List Char) := do
  let s := scope.modes.skip s
  match s with
  | '?' :: '=' :: _ | '?' :: '!' :: _ | '?' :: '<' :: '=' :: _ | '?' :: '<' :: '!' :: _ => none
  | '?' :: 'P' :: '<' :: s | '?' :: '<' :: s =>
    let (name, s) ← groupName? s
    guard !(scope.names.contains name)
    return (.group { scope with names := name :: scope.names }, s)
  | '?' :: s =>
    let (modes, last, s) ← scope.modes.switch? true [] s
    return (if last == ':' then .group { scope with modes } else .switch modes, s)
  | s => return (.group scope, s)

/-- Branches and their pieces, up to a closing parenthesis or the end. `fuel` bounds the nesting
and the number of pieces, each of which takes a character at least. -/
def alternatives? : Nat → Scope → List Piece → List Piece → List Char →
    Option (Piece × Scope × List Char)
  | 0, _, _, _, _ => none
  | fuel + 1, scope, branches, pieces, s =>
    let finished := Piece.alternation (branches ++ [.concatenation pieces])
    /- The last piece gives way to its repetition. -/
    let again (least : Nat) (most : Option Nat) (s : List Char) := do
      let last ← pieces.getLast?
      let piece ← last.repeated? least most
      alternatives? fuel scope branches (pieces.dropLast ++ [piece]) (skipLazy s)
    match scope.modes.skip s with
    | [] => some (finished, scope, [])
    | ')' :: s => some (finished, scope, ')' :: s)
    | '|' :: s => alternatives? fuel scope (branches ++ [.concatenation pieces]) [] s
    | '?' :: s => again 0 (some 1) s
    | '*' :: s => again 0 none s
    | '+' :: s => again 1 none s
    | '\x7b' :: s => do
      let (least, most, s) ← scope.modes.bounds? s
      again least most (scope.modes.skip s)
    | '(' :: s => do
      match ← scope.open? s with
      | (.switch modes, s) =>
        alternatives? fuel { scope with modes } branches (pieces ++ [.silent]) s
      | (.group inner, s) =>
        let (piece, inner, s) ← alternatives? fuel inner [] [] s
        let s ← after? [')'] s
        alternatives? fuel { scope with names := inner.names } branches
          (pieces ++ [piece.enclosed]) s
    | '[' :: s => do
      let (cls, depth, s) ← scope.modes.set? (s.length + 2) ('[' :: s)
      alternatives? fuel scope branches (pieces ++ [{ Piece.ofClass cls with depth }]) s
    | s => do
      let (piece, s) ← scope.modes.primitive? s
      alternatives? fuel scope branches (pieces ++ [piece]) s

def read? (table : PropertyTable) (text : String) : Option Pattern := do
  let s := text.toList
  let (piece, _, rest) ← alternatives? (s.length + 1) { modes := { table } } [] [] s
  guard (rest.isEmpty && piece.depth ≤ deepest && piece.weight ≤ heaviest)
  return piece.pattern

end InfraLint.Pattern
