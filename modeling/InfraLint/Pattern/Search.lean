import InfraLint.Pattern.Basic

/-!
Searching for a pattern. All ways to go through the pattern are followed at once: each place of
the pattern that stands for one character carries a mark when some way has just taken a
character there, and one step of the search moves the marks on by one character. The work per
character is the size of the pattern.
-/
namespace InfraLint.Pattern

inductive Marked where
  | empty
  | anchor (a : Anchor)
  | chars (mark : Bool) (c : CharClass)
  | seq (p q : Marked)
  | alt (p q : Marked)
  | star (p : Marked)
  deriving DecidableEq, Repr

def unmarked : Pattern → Marked
  | .empty => .empty
  | .anchor a => .anchor a
  | .chars c => .chars false c
  | .seq p q => .seq p.unmarked q.unmarked
  | .alt p q => .alt p.unmarked q.unmarked
  | .star p => .star p.unmarked

namespace Marked

def passes (before after : Option Char) : Marked → Bool
  | empty => true
  | anchor a => a.holds before after
  | chars _ _ => false
  | seq p q => p.passes before after && q.passes before after
  | alt p q => p.passes before after || q.passes before after
  | star _ => true

def ends (before after : Option Char) : Marked → Bool
  | empty => false
  | anchor _ => false
  | chars mark _ => mark
  | seq p q => p.ends before after && q.passes before after || q.ends before after
  | alt p q => p.ends before after || q.ends before after
  | star p => p.ends before after

/-- Takes the character `c` behind `before`. `enter` says whether a way through the pattern may
start in front of it. -/
def step (before : Option Char) (c : Char) (enter : Bool) : Marked → Marked
  | empty => empty
  | anchor a => anchor a
  | chars _ cls => chars (enter && cls.contains c) cls
  | seq p q =>
    seq (p.step before c enter)
      (q.step before c (p.ends before (some c) || enter && p.passes before (some c)))
  | alt p q => alt (p.step before c enter) (q.step before c enter)
  | star p => star (p.step before c (enter || p.ends before (some c)))

def finds (before : Option Char) : Marked → List Char → Bool
  | p, [] => p.ends before none || p.passes before none
  | p, c :: s =>
    p.ends before (some c) || p.passes before (some c) || finds (some c) (p.step before c true) s

end Marked

def isFoundIn (p : Pattern) (text : String) : Bool :=
  p.unmarked.finds none text.toList

end InfraLint.Pattern
