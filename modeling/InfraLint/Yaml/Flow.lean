import InfraLint.Yaml.Cursor

/-!
Scalars within lines: plain ones and quoted ones. Where such a scalar goes over a line break, the
break and the blanks around it are folded.
-/
namespace InfraLint.Yaml

structure Gap where
  blanks : List Char := []
  breaks : List Char := []

def foldBreaks : List Char → List Char
  | ['\n'] => [' ']
  | '\n' :: breaks => breaks
  | breaks => breaks

def Gap.folded (g : Gap) : List Char :=
  match g.breaks with
  | [] => g.blanks
  | breaks => foldBreaks breaks

/-- The gap at the cursor. Behind a break, a tab in front of column `indent` is refused. `broken`
says that a break has been passed already. -/
def gap? (indent : Int) : Nat → Bool → Cursor → Option (Gap × Cursor)
  | 0, _, c => some ({}, c)
  | fuel + 1, broken, c =>
    match c.lineBreak? with
    | some (b, c) => (gap? indent fuel true c).map fun (g, c) =>
      ({ g with blanks := [], breaks := b :: g.breaks }, c)
    | none =>
      match c.rest with
      | [] => some ({}, c)
      | x :: _ =>
        if !isBlank x then some ({}, c)
        else if broken && x == '\t' && c.mark.column < indent then none
        else (gap? indent fuel broken (c.right 1)).map fun (g, c) =>
          ({ g with blanks := if broken || !g.breaks.isEmpty then [] else x :: g.blanks }, c)

/-! Plain scalars -/

def plainRun? (inFlow : Bool) : List Char → Option (List Char)
  | [] => some []
  | c :: s =>
    if isBlank c || isBreak c then some []
    else if inFlow && c == ':' && s.head?.any (",?[]\x7b\x7d".toList.contains ·) then none
    else if c == ':' && atGap s then some []
    else if inFlow && ",[]\x7b\x7d".toList.contains c then some []
    else (plainRun? inFlow s).map (c :: ·)

/-- A plain scalar from `c` on, `before` being the gap in front of it. The answer holds the text,
the cursor behind it, and whether the scalar ended behind a line break. -/
def plainFrom? (inFlow : Bool) (indent : Int) : Nat → Gap → Cursor →
    Option (List Char × Cursor × Bool)
  | 0, _, _ => none
  | fuel + 1, before, c => do
    let broken := !before.breaks.isEmpty
    if c.atEdge || c.rest.head? = some '#' then return ([], c, broken)
    let run ← plainRun? inFlow c.rest
    let text := if run.isEmpty then [] else before.folded ++ run
    /- A gap stays open where an indicator follows it. -/
    let before := if run.isEmpty then before else {}
    let c := c.right run.length
    let ended := !before.breaks.isEmpty
    match c.rest with
    | [] => return (text, c, ended)
    | x :: _ =>
      if !isBlank x && !isBreak x then return (text, c, ended)
      let (g, c) ← gap? indent (c.rest.length + 1) false c
      if !inFlow && c.mark.column < indent then return (text, c, !g.breaks.isEmpty)
      let (more, c, ended) ← plainFrom? inFlow indent fuel g c
      return (text ++ more, c, ended)

def plain? (inFlow : Bool) (indent : Int) (c : Cursor) : Option (String × Cursor × Bool) := do
  let (text, c, ended) ← plainFrom? inFlow (indent + 1) (c.rest.length + 1) {} c
  return (.ofList text, c, ended)

/-! Quoted scalars -/

def hexDigit? (c : Char) : Option Nat :=
  if c.isDigit then some (c.toNat - 48)
  else if 'a' ≤ c && c ≤ 'f' then some (c.toNat - 87)
  else if 'A' ≤ c && c ≤ 'F' then some (c.toNat - 55)
  else none

def shortEscape? : Char → Option Char
  | '0' => some '\x00'
  | 'a' => some '\x07'
  | 'b' => some '\x08'
  | 't' => some '\t'
  | '\t' => some '\t'
  | 'n' => some '\n'
  | 'v' => some '\x0B'
  | 'f' => some '\x0C'
  | 'r' => some '\r'
  | 'e' => some '\x1B'
  | ' ' => some ' '
  | '"' => some '"'
  | '/' => some '/'
  | '\\' => some '\\'
  | 'N' => some '\u0085'
  | '_' => some '\u00A0'
  | 'L' => some '\u2028'
  | 'P' => some '\u2029'
  | _ => none

def escapeLength? : Char → Option Nat
  | 'x' => some 2
  | 'u' => some 4
  | 'U' => some 8
  | _ => none

def hexValue? (ds : List Char) : Option Nat :=
  ds.foldlM (fun n c => (hexDigit? c).map (n * 16 + ·)) 0

def escape? : List Char → Option (Char × Nat)
  | [] => none
  | c :: s =>
    match shortEscape? c with
    | some x => some (x, 1)
    | none => do
      let length ← escapeLength? c
      let ds := s.take length
      guard (ds.length = length)
      let n ← hexValue? ds
      guard n.isValidChar
      return (Char.ofNat n, length + 1)

inductive Stop where
  | quote
  | gap
  | escapedBreak
  deriving DecidableEq

def quotedRun? (single : Bool) : Nat → List Char → Option (List Char × Nat × Stop)
  | 0, _ => none
  | _, [] => some ([], 0, .gap)
  | fuel + 1, c :: s =>
    let continued (x : Char) (count : Nat) (s : List Char) :=
      (quotedRun? single fuel s).map fun (text, n, stop) => (x :: text, n + count, stop)
    if isBlank c || isBreak c then some ([], 0, .gap)
    else if single then
      if c == '\'' then
        match s with
        | '\'' :: s => continued '\'' 2 s
        | _ => some ([], 0, .quote)
      else continued c 1 s
    else if c == '"' then some ([], 0, .quote)
    else if c == '\\' then
      match s with
      | [] => none
      | x :: _ =>
        if isBreak x then some ([], 1, .escapedBreak)
        else do
          let (x, count) ← escape? s
          continued x (count + 1) (s.drop count)
    else continued c 1 s

def quotedFrom? (single : Bool) : Nat → Cursor → Option (List Char × Cursor)
  | 0, _ => none
  | fuel + 1, c => do
    guard !c.atEdge
    guard !c.rest.isEmpty
    let (run, count, stop) ← quotedRun? single (c.rest.length + 1) c.rest
    let c := c.right count
    if stop = .quote then return (run, c.right 1)
    let (filling, c) ← match stop with
      | .escapedBreak => do
        let (_, c) ← c.lineBreak?
        /- Quotes and escapes may follow an escaped break at once. -/
        let (g, c) ← gap? 0 (c.rest.length + 1) true c
        pure (g.breaks, c)
      | _ => do
        let (g, c) ← gap? 0 (c.rest.length + 1) false c
        pure (g.folded, c)
    let (more, c) ← quotedFrom? single fuel c
    return (run ++ filling ++ more, c)

def quoted? (single : Bool) (c : Cursor) : Option (String × Cursor) := do
  let (text, c) ← quotedFrom? single (c.rest.length + 1) (c.right 1)
  return (.ofList text, c)

end InfraLint.Yaml
