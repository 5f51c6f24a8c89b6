import InfraLint.Yaml.BlockText
import InfraLint.Yaml.Flow

/-!
Tokens of a YAML text. Indentation becomes tokens that open and close blocks. A mapping key is
known as one only when its colon is met; the tokens that announce it are then put in front of it.
-/
namespace InfraLint.Yaml

inductive Style where
  | plain
  | quoted
  | literal
  | folded
  deriving DecidableEq, Repr

inductive TokenKind where
  | version (major minor : Nat)
  | tagHandle (handle meaning : String)
  | documentStart
  | documentEnd
  | blockSequence
  | blockMapping
  | blockEnd
  | flowSequence
  | flowSequenceEnd
  | flowMapping
  | flowMappingEnd
  | blockEntry
  | flowEntry
  | key
  | value
  | reference (name : String)
  | anchor (name : String)
  | tag (handle rest : String)
  | scalar (text : String) (style : Style)
  deriving DecidableEq, Repr

structure Token where
  kind : TokenKind
  start : Mark
  stop : Mark
  deriving DecidableEq, Repr

/-- A place where a mapping key may have started: the number of tokens in front of it. A required
key must be followed by a colon. -/
structure PossibleKey where
  required : Bool
  position : Nat
  mark : Mark

structure Scan where
  cursor : Cursor
  tokens : List Token := []
  count : Nat := 0
  indent : Int := -1
  outer : List Int := []
  keyAllowed : Bool := true
  blockKey : Option PossibleKey := none
  flowKeys : List (Option PossibleKey) := []

def insertBack (token : Token) : Nat → List Token → List Token
  | 0, tokens => token :: tokens
  | back + 1, t :: tokens => t :: insertBack token back tokens
  | _ + 1, [] => [token]

namespace Scan

def mark (s : Scan) : Mark := s.cursor.mark

def rest (s : Scan) : List Char := s.cursor.rest

def inFlow (s : Scan) : Bool := !s.flowKeys.isEmpty

def push (kind : TokenKind) (start stop : Mark) (s : Scan) : Scan :=
  { s with tokens := ⟨kind, start, stop⟩ :: s.tokens, count := s.count + 1 }

def insertAt (position : Nat) (kind : TokenKind) (mark : Mark) (s : Scan) : Scan :=
  { s with
    tokens := insertBack ⟨kind, mark, mark⟩ (s.count - position) s.tokens
    count := s.count + 1 }

def take (kind : TokenKind) (length : Nat) (s : Scan) : Scan :=
  let c := s.cursor.right length
  { s.push kind s.mark c.mark with cursor := c }

/-! Possible keys -/

def currentKey (s : Scan) : Option PossibleKey := s.flowKeys.headD s.blockKey

def setKey (key : Option PossibleKey) (s : Scan) : Scan :=
  match s.flowKeys with
  | [] => { s with blockKey := key }
  | _ :: keys => { s with flowKeys := key :: keys }

def dropKey? (s : Scan) : Option Scan :=
  if s.currentKey.any (·.required) then none else some (s.setKey none)

/-- A key may start here. In a block it is required where it stands at the indent. -/
def saveKey? (s : Scan) : Option Scan :=
  if !s.keyAllowed then some s
  else do
    let s ← s.dropKey?
    let required := !s.inFlow && s.indent == s.mark.column
    return s.setKey (some ⟨required, s.count, s.mark⟩)

def PossibleKey.isStale (mark : Mark) (key : PossibleKey) : Bool :=
  key.mark.line < mark.line || key.mark.index + 1024 < mark.index

def dropStale? (s : Scan) : Option Scan :=
  let stale (key : Option PossibleKey) := key.any (PossibleKey.isStale s.mark)
  if (s.blockKey :: s.flowKeys).any fun key => stale key && key.any (·.required) then none
  else
    let fresh (key : Option PossibleKey) := if stale key then none else key
    some { s with blockKey := fresh s.blockKey, flowKeys := s.flowKeys.map fresh }

/-! Blocks -/

def openBlock (column : Nat) (position : Nat) (kind : TokenKind) (mark : Mark) (s : Scan) :
    Scan :=
  if s.inFlow || (column : Int) ≤ s.indent then s
  else { s.insertAt position kind mark with indent := column, outer := s.indent :: s.outer }

def closeBlocks (column : Int) (s : Scan) : Scan :=
  if s.inFlow then s
  else
    let rec go : List Int → Scan → Scan
      | [], s => s
      | i :: outer, s =>
        if column < s.indent then
          go outer { s.push .blockEnd s.mark s.mark with indent := i, outer }
        else s
    go s.outer s

/-! White space and comments -/

/-- Blanks and a comment up to the next token or line break. A tab does not count as a blank
where a key may start in a block. -/
def skipInLine (s : Scan) : Scan :=
  let tabs := s.inFlow || !s.keyAllowed
  let (_, c) := s.cursor.takeWhile fun x => x == ' ' || tabs && x == '\t'
  let (_, c) := if c.rest.head? = some '#' then c.takeWhile (!isBreak ·) else ([], c)
  { s with cursor := c }

def toToken : Nat → Scan → Scan
  | 0, s => s
  | fuel + 1, s =>
    let s := s.skipInLine
    match s.cursor.lineBreak? with
    | none => s
    | some (_, c) => toToken fuel { s with cursor := c, keyAllowed := s.keyAllowed || !s.inFlow }

/-! Directives -/

def digits? (s : List Char) : Option (Nat × List Char) :=
  let ds := s.takeWhile Char.isDigit
  if ds.isEmpty || 9 < ds.length then none
  else some (ds.foldl (fun n c => n * 10 + (c.toNat - 48)) 0, s.dropWhile Char.isDigit)

def blanks? (s : List Char) : Option (List Char) :=
  match s with
  | c :: _ => if isBlank c then some (s.dropWhile isBlank) else none
  | [] => none

def isUriChar (verbatim : Bool) (c : Char) : Bool :=
  isNameChar c || ";/?:@&=+$.!~*'()".toList.contains c || verbatim && ",[]".toList.contains c

def hexByte? : List Char → Option Nat
  | a :: b :: _ => do return (← hexDigit? a) * 16 + (← hexDigit? b)
  | _ => none

/-- A character written as percent signs and hexadecimal bytes; further bytes than the first hold
six bits each. -/
def percentChar? (s : List Char) : Option (Char × List Char) :=
  match s with
  | '%' :: s => do
    let first ← hexByte? s
    let (value, more) ←
      if first < 0x80 then some (first, 0)
      else if 0xC0 ≤ first && first < 0xE0 then some (first % 0x20, 1)
      else if 0xE0 ≤ first && first < 0xF0 then some (first % 0x10, 2)
      else if 0xF0 ≤ first && first < 0xF8 then some (first % 0x08, 3)
      else none
    let rec follow : Nat → Nat → List Char → Option (Nat × List Char)
      | 0, value, s => some (value, s)
      | n + 1, value, '%' :: s => do
        let byte ← hexByte? s
        guard (0x80 ≤ byte && byte < 0xC0)
        follow n (value * 64 + byte % 64) (s.drop 2)
      | _ + 1, _, _ => none
    let (value, s) ← follow more value (s.drop 2)
    guard value.isValidChar
    return (Char.ofNat value, s)
  | _ => none

def uri? (verbatim : Bool) : Nat → List Char → Option (List Char × List Char)
  | 0, s => some ([], s)
  | _, [] => some ([], [])
  | fuel + 1, c :: s =>
    if c == '%' then do
      let (x, s) ← percentChar? (c :: s)
      let (more, s) ← uri? verbatim fuel s
      return (x :: more, s)
    else if isUriChar verbatim c then (uri? verbatim fuel s).map fun (more, s) => (c :: more, s)
    else some ([], c :: s)

def uriOf? (verbatim : Bool) (s : List Char) : Option (List Char × List Char) :=
  uri? verbatim (s.length + 1) s

def handle? (s : List Char) : Option (List Char × List Char) :=
  match s with
  | '!' :: s =>
    let name := s.takeWhile isNameChar
    match s.dropWhile isNameChar with
    | '!' :: rest => some ('!' :: name ++ ['!'], rest)
    | rest => some ('!' :: name, rest)
  | _ => none

def directive? (s : List Char) : Option (TokenKind × List Char) := do
  let name := s.takeWhile isNameChar
  let s := s.dropWhile isNameChar
  match String.ofList name with
  | "YAML" =>
    let (major, s) ← digits? (← blanks? s)
    match s with
    | '.' :: s =>
      let (minor, s) ← digits? s
      return (.version major minor, s)
    | _ => none
  | "TAG" =>
    let (handle, s) ← handle? (← blanks? s)
    guard (handle = ['!'] || handle.getLast? = some '!')
    let (meaning, s) ← uriOf? true (← blanks? s)
    guard (!meaning.isEmpty && atGap s)
    return (.tagHandle (.ofList handle) (.ofList meaning), s)
  | _ => none

def readDirective? (s : Scan) : Option Scan := do
  let s := s.closeBlocks (-1)
  let s ← s.dropKey?
  let (kind, rest) ← directive? (s.rest.drop 1)
  let c := s.cursor.right (s.rest.length - rest.length)
  let stop := c.mark
  let (_, c) := c.takeWhile isBlank
  let (_, c) := if c.rest.head? = some '#' then c.takeWhile (!isBreak ·) else ([], c)
  let c ← match c.rest with
    | [] => some c
    | _ => (c.lineBreak?).map (·.2)
  return { s.push kind s.mark stop with cursor := c, keyAllowed := false }

/-! Collections -/

def readDocumentEdge? (kind : TokenKind) (s : Scan) : Option Scan := do
  let s ← (s.closeBlocks (-1)).dropKey?
  return { s with keyAllowed := false }.take kind 3

def openFlow? (kind : TokenKind) (s : Scan) : Option Scan := do
  let s ← s.saveKey?
  return { s with flowKeys := none :: s.flowKeys, keyAllowed := true }.take kind 1

def closeFlow? (kind : TokenKind) (s : Scan) : Option Scan := do
  let s ← s.dropKey?
  return { s with flowKeys := s.flowKeys.drop 1, keyAllowed := false }.take kind 1

def readFlowEntry? (s : Scan) : Option Scan := do
  let s ← s.dropKey?
  return { s with keyAllowed := true }.take .flowEntry 1

def openImplied? (kind : TokenKind) (s : Scan) : Option Scan :=
  if s.inFlow then some s
  else if !s.keyAllowed then none
  else some (s.openBlock s.mark.column s.count kind s.mark)

def readBlockEntry? (s : Scan) : Option Scan := do
  let s ← (← s.openImplied? .blockSequence).dropKey?
  return { s with keyAllowed := true }.take .blockEntry 1

def readKey? (s : Scan) : Option Scan := do
  let s ← (← s.openImplied? .blockMapping).dropKey?
  return { s with keyAllowed := !s.inFlow }.take .key 1

/-- A colon makes the possible key a key, and opens a mapping in front of it. -/
def readValue? (s : Scan) : Option Scan := do
  match s.currentKey with
  | some key =>
    let s := s.insertAt key.position .key key.mark
    let s := s.openBlock key.mark.column key.position .blockMapping key.mark
    return { s.setKey none with keyAllowed := false }.take .value 1
  | none =>
    let s ← s.openImplied? .blockMapping
    return { s with keyAllowed := !s.inFlow }.take .value 1

/-! Properties and scalars -/

def readName? (kind : String → TokenKind) (s : Scan) : Option Scan := do
  let s ← s.saveKey?
  let name := (s.rest.drop 1).takeWhile isNameChar
  let after := s.rest.drop (name.length + 1)
  guard (!name.isEmpty && (atGap after || after.head?.any ("?:,]\x7d%@\x60".toList.contains ·)))
  return { s with keyAllowed := false }.take (kind (.ofList name)) (name.length + 1)

def tag? (s : List Char) : Option (TokenKind × List Char) := do
  match s with
  | '!' :: '<' :: s =>
    let (name, s) ← uriOf? true s
    match s with
    | '>' :: s =>
      guard (!name.isEmpty)
      return (.tag "" (.ofList name), s)
    | _ => none
  | s =>
    let (handle, s) ← handle? s
    if 1 < handle.length && handle.getLast? = some '!' then
      let (name, s) ← uriOf? false s
      guard (!name.isEmpty)
      return (.tag (.ofList handle) (.ofList name), s)
    else
      let (name, s) ← uriOf? false s
      let name := handle.drop 1 ++ name
      return (if name.isEmpty then .tag "" "!" else .tag "!" (.ofList name), s)

def readTag? (s : Scan) : Option Scan := do
  let s ← s.saveKey?
  let (kind, rest) ← tag? s.rest
  guard (atGap rest || s.inFlow && rest.head? = some ',')
  return { s with keyAllowed := false }.take kind (s.rest.length - rest.length)

def readBlockText? (literal : Bool) (s : Scan) : Option Scan := do
  let s ← s.dropKey?
  let (text, c) ← blockText? literal s.indent s.cursor
  let kind := TokenKind.scalar text (if literal then .literal else .folded)
  return { s.push kind s.mark c.mark with cursor := c, keyAllowed := true }

def readQuoted? (single : Bool) (s : Scan) : Option Scan := do
  let s ← s.saveKey?
  let (text, c) ← quoted? single s.cursor
  return { s.push (.scalar text .quoted) s.mark c.mark with cursor := c, keyAllowed := false }

def readPlain? (s : Scan) : Option Scan := do
  let s ← s.saveKey?
  let (text, c, ended) ← plain? s.inFlow s.indent s.cursor
  return { s.push (.scalar text .plain) s.mark c.mark with cursor := c, keyAllowed := ended }

def startsPlain (inFlow : Bool) (c : Char) (s : List Char) : Bool :=
  match c with
  | '-' => !(s.head?.any isBlank)
  | '?' | ':' => !inFlow && !atGap s
  | c => !(",[]\x7b\x7d#&*!|>'\"%@\x60".toList.contains c) && !isBlank c && !isBreak c

def next? (c : Char) (after : List Char) (s : Scan) : Option Scan :=
  if s.mark.column = 0 && c == '%' then s.readDirective?
  else if s.cursor.atEdge then
    s.readDocumentEdge? (if c == '-' then .documentStart else .documentEnd)
  else
    match c with
    | '[' => s.openFlow? .flowSequence
    | '\x7b' => s.openFlow? .flowMapping
    | ']' => s.closeFlow? .flowSequenceEnd
    | '\x7d' => s.closeFlow? .flowMappingEnd
    | ',' => s.readFlowEntry?
    | '*' => s.readName? .reference
    | '&' => s.readName? .anchor
    | '!' => s.readTag?
    | '\'' => s.readQuoted? true
    | '"' => s.readQuoted? false
    | _ =>
      if c == '-' && atGap after then s.readBlockEntry?
      else if c == '?' && (s.inFlow || atGap after) then s.readKey?
      else if c == ':' && (s.inFlow || atGap after) then s.readValue?
      else if c == '|' && !s.inFlow then s.readBlockText? true
      else if c == '>' && !s.inFlow then s.readBlockText? false
      else if startsPlain s.inFlow c after then s.readPlain?
      else none

def finish? (s : Scan) : Option Scan := do
  let c := s.cursor
  let mark := if c.mark.column = 0 then c.mark else c.mark.down 0
  ({ s with cursor := { c with mark } }.closeBlocks (-1)).dropKey?

def run? : Nat → Scan → Option Scan
  | 0, _ => none
  | fuel + 1, s => do
    let s ← (s.toToken (s.rest.length + 1)).dropStale?
    let s := s.closeBlocks s.mark.column
    match s.rest with
    | [] => s.finish?
    | c :: after => run? fuel (← s.next? c after)

end Scan

def tokens? (text : String) : Option (List Token) := do
  let chars := text.toList
  guard (chars.all isAllowed)
  let start : Cursor := ⟨.start, chars⟩
  let start := if chars.head? = some byteOrderMark then start.right 1 else start
  let s ← Scan.run? (chars.length + 1) { cursor := start }
  return s.tokens.reverse

end InfraLint.Yaml
