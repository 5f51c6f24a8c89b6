/-!
Places in a JSON text. Lines count from one; a column is the number of bytes since the last
line feed.
-/
namespace InfraLint.Json

structure Place where
  line : Nat
  column : Nat
  deriving DecidableEq, Repr

structure Cursor where
  place : Place
  rest : List Char

namespace Cursor

def start (text : List Char) : Cursor := ⟨⟨1, 0⟩, text⟩

end Cursor

def Place.into (p : Place) (c : Char) (bytes : Nat) : Place :=
  if c == '\n' then ⟨p.line + 1, 0⟩ else ⟨p.line, p.column + bytes⟩

namespace Cursor

def advance (c : Cursor) : Cursor :=
  match c.rest with
  | [] => c
  | x :: rest => ⟨c.place.into x x.utf8Size, rest⟩

/-- The place one byte ahead, which is where an unexpected character is reported. -/
def ahead (c : Cursor) : Place :=
  match c.rest with
  | [] => c.place
  | x :: _ => c.place.into x 1

def bytesAhead (place : Place) : Nat → List Char → Place × Bool
  | 0, _ => (place, true)
  | _ + 1, [] => (place, false)
  | n + 1, x :: rest =>
    if x.utf8Size ≤ n + 1 then bytesAhead (place.into x x.utf8Size) (n + 1 - x.utf8Size) rest
    else (place.into x (n + 1), true)
termination_by n => n
decreasing_by have := x.utf8Size_pos; omega

def isWhite (c : Char) : Bool := c == ' ' || c == '\n' || c == '\t' || c == '\r'

def skipFrom (place : Place) : List Char → Cursor
  | [] => ⟨place, []⟩
  | x :: rest => if isWhite x then skipFrom (place.into x 1) rest else ⟨place, x :: rest⟩

def skipWhite (c : Cursor) : Cursor := skipFrom c.place c.rest

end Cursor
end InfraLint.Json
