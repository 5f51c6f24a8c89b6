/-!
Places in a YAML text, and the characters that its grammar tells apart.
-/
namespace InfraLint.Yaml

structure Mark where
  line : Nat
  column : Nat
  index : Nat
  deriving DecidableEq, Repr

def Mark.start : Mark := ⟨0, 0, 0⟩

def Mark.right (m : Mark) (count : Nat) : Mark := ⟨m.line, m.column + count, m.index + count⟩

def Mark.down (m : Mark) (count : Nat) : Mark := ⟨m.line + 1, 0, m.index + count⟩

structure Cursor where
  mark : Mark
  rest : List Char

def byteOrderMark : Char := '\uFEFF'

def isBlank (c : Char) : Bool := c == ' ' || c == '\t'

def isBreak (c : Char) : Bool :=
  c == '\n' || c == '\r' || c == '\u0085' || c == '\u2028' || c == '\u2029'

def atGap : List Char → Bool
  | [] => true
  | c :: _ => isBlank c || isBreak c

def isNameChar (c : Char) : Bool := c.isAlphanum || c == '_' || c == '-'

def isAllowed (c : Char) : Bool :=
  let n := c.toNat
  n == 0x09 || n == 0x0A || n == 0x0D || 0x20 ≤ n && n ≤ 0x7E || n == 0x85 ||
    0xA0 ≤ n && n ≤ 0xFFFD || 0x10000 ≤ n

def atDocumentEdge (s : List Char) : Bool :=
  match s with
  | '-' :: '-' :: '-' :: s => atGap s
  | '.' :: '.' :: '.' :: s => atGap s
  | _ => false

namespace Cursor

def right (c : Cursor) (count : Nat) : Cursor := ⟨c.mark.right count, c.rest.drop count⟩

def atEdge (c : Cursor) : Bool := c.mark.column == 0 && atDocumentEdge c.rest

def takeWhile (p : Char → Bool) (c : Cursor) : List Char × Cursor :=
  let taken := c.rest.takeWhile p
  (taken, ⟨c.mark.right taken.length, c.rest.dropWhile p⟩)

/-- A line break, if one stands here. All of them read as a line feed but the two separators,
which stand for themselves. -/
def lineBreak? (c : Cursor) : Option (Char × Cursor) :=
  match c.rest with
  | '\r' :: '\n' :: rest => some ('\n', ⟨c.mark.down 2, rest⟩)
  | x :: rest =>
    if !isBreak x then none
    else some (if x == '\u2028' || x == '\u2029' then x else '\n', ⟨c.mark.down 1, rest⟩)
  | [] => none

end Cursor
end InfraLint.Yaml
