import InfraLint.Yaml.Meaning

/-!
Writing YAML: mappings and lists in blocks, and each text in the simplest style that reads back
as that text.
-/
namespace InfraLint.Yaml

inductive Layout where
  | word (s : String)
  | text (s : String)
  | list (items : List String)
  | record (members : List (String × Layout))

namespace Layout

/-! The choice of style -/

def isPrintable (c : Char) : Bool :=
  let n := c.toNat
  n == 0x0A || 0x20 ≤ n && n ≤ 0x7E || 0xA0 ≤ n && n ≤ 0xFFFD && n != 0xFEFF || 0x10000 ≤ n

def hasNeighbours (p q : Char → Bool) : List Char → Bool
  | a :: b :: s => p a && q b || hasNeighbours p q (b :: s)
  | _ => false

def isSpace (c : Char) : Bool := c == ' '

def startsWithIndicator (s : List Char) : Bool :=
  match s with
  | '-' :: '-' :: '-' :: _ => true
  | '.' :: '.' :: '.' :: _ => true
  | c :: rest =>
    "#,[]\x7b\x7d&*!|>'\"%@\x60".toList.contains c || "?:-".toList.contains c && atGap rest
  | [] => false

def holdsIndicator : List Char → Bool
  | [] => false
  | c :: s =>
    c == ':' && atGap s || (isBlank c || isBreak c) && s.head? == some '#' || holdsIndicator s

def startsOrEnds (p : Char → Bool) (s : List Char) : Bool :=
  s.head?.any p || s.getLast?.any p

def allowsPlain (s : List Char) : Bool :=
  s.all isPrintable && !s.any isBreak && !startsOrEnds isSpace s &&
    !startsWithIndicator s && !holdsIndicator s

def allowsSingleQuotes (s : List Char) : Bool :=
  s.all isPrintable && !hasNeighbours isBreak isSpace s && !hasNeighbours isSpace isBreak s

def allowsLiteral (s : List Char) : Bool :=
  s.all isPrintable && !s.getLast?.any isSpace && !hasNeighbours isSpace isBreak s

def needsQuotes (s : String) : Bool :=
  plainMeaning s != .text s || hasLeadingZero s.toList

inductive Quoting where
  | plain
  | single
  | double
  | literal
  deriving DecidableEq

def quoting (s : String) : Quoting :=
  let cs := s.toList
  if cs.contains '\n' then if allowsLiteral cs then .literal else .double
  else if !needsQuotes s && allowsPlain cs then .plain
  else if allowsSingleQuotes cs then .single
  else .double

/-! The styles -/

def spaces (n : Nat) : List Char := List.replicate n ' '

def singleQuoted (indent : Nat) (broken : Bool) : List Char → List Char
  | [] => (if broken then spaces indent else []) ++ ['\'']
  | c :: s =>
    if isBreak c then c :: singleQuoted indent true s
    else
      (if broken then spaces indent else []) ++ (if c == '\'' then ['\'', '\''] else [c]) ++
        singleQuoted indent false s

def hexDigit (n : Nat) : Char :=
  if n < 10 then Char.ofNat (48 + n) else Char.ofNat (55 + n)

def hexDigits : Nat → Nat → List Char
  | 0, _ => []
  | count + 1, n => hexDigits count (n / 16) ++ [hexDigit (n % 16)]

def shortEscapes : List (Char × Char) :=
  [('\x00', '0'), ('\x07', 'a'), ('\x08', 'b'), ('\t', 't'), ('\n', 'n'), ('\x0B', 'v'),
    ('\x0C', 'f'), ('\r', 'r'), ('\x1B', 'e'), ('"', '"'), ('\\', '\\'), ('\u0085', 'N'),
    ('\u2028', 'L'), ('\u2029', 'P')]

def escapedChar (c : Char) : List Char :=
  if isPrintable c && !isBreak c && c != '"' && c != '\\' then [c]
  else
    match shortEscapes.lookup c with
    | some x => ['\\', x]
    | none =>
      let n := c.toNat
      if n ≤ 0xFF then '\\' :: 'x' :: hexDigits 2 n
      else if n ≤ 0xFFFF then '\\' :: 'u' :: hexDigits 4 n
      else '\\' :: 'U' :: hexDigits 8 n

def indentStep : Nat := 2

/-- The indent is given where the first line does not show it, and what becomes of the breaks at
the end where it is not one. -/
def literalHeader (s : List Char) : List Char :=
  let indent := if s.head?.any fun c => isSpace c || isBreak c then ['2'] else []
  let chomping := match s.reverse with
    | [] => ['-']
    | c :: before =>
      if !isBreak c then ['-']
      else if before.head?.all isBreak then ['+']
      else []
  '|' :: indent ++ chomping

def literalLines (indent : Nat) (broken : Bool) : List Char → List Char
  | [] => if broken then [] else ['\n']
  | c :: s =>
    if isBreak c then c :: literalLines indent true s
    else (if broken then spaces indent else []) ++ c :: literalLines indent false s

def writeText (indent : Nat) (s : String) : List Char :=
  let cs := s.toList
  match quoting s with
  | .plain => ' ' :: cs ++ ['\n']
  | .single => ' ' :: '\'' :: singleQuoted indent false cs ++ ['\n']
  | .double => ' ' :: '"' :: cs.flatMap escapedChar ++ ['"', '\n']
  | .literal => ' ' :: literalHeader cs ++ '\n' :: literalLines indent true cs

/-! Collections -/

mutual

/-- The value of a key, in a mapping with the given indent, with the break that ends it. Items of
a list stand at the indent of the mapping. -/
def writeValue (indent : Nat) : Layout → List Char
  | word s => ' ' :: s.toList ++ ['\n']
  | text s => writeText (indent + indentStep) s
  | list [] => " []\n".toList
  | list items =>
    '\n' :: items.flatMap fun item =>
      spaces indent ++ '-' :: writeText (indent + indentStep) item
  | record members => '\n' :: writeMembers (indent + indentStep) members

def writeMembers (indent : Nat) : List (String × Layout) → List Char
  | [] => []
  | (key, value) :: rest =>
    spaces indent ++ key.toList ++ ':' :: writeValue indent value ++ writeMembers indent rest

end

def writeDocument (members : List (String × Layout)) : String :=
  .ofList (writeMembers 0 members)

end Layout
end InfraLint.Yaml
