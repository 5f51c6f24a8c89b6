import InfraLint.Pattern.CharClass

/-!
Patterns for names: regular expressions without look-around and back-references. Groups,
laziness and the choice among several matches do not matter here, only whether a text holds a
match at all.
-/
namespace InfraLint

namespace Pattern

/-- Conditions on a place in a text. They see the characters on both sides of it; `ascii` takes
only ASCII letters, digits and the underscore for word characters. -/
inductive Anchor where
  | textStart
  | textEnd
  | lineStart
  | lineEnd
  /-- Behind a carriage return or line feed, but not between the two. -/
  | anyLineStart
  | anyLineEnd
  | wordEdge (ascii : Bool)
  | notWordEdge (ascii : Bool)
  | wordStart (ascii : Bool)
  | wordEnd (ascii : Bool)
  | noWordBefore (ascii : Bool)
  | noWordAfter (ascii : Bool)
  deriving DecidableEq, Repr

end Pattern

open Pattern

inductive Pattern where
  | empty
  | anchor (a : Anchor)
  | chars (c : CharClass)
  | seq (p q : Pattern)
  | alt (p q : Pattern)
  | star (p : Pattern)
  deriving DecidableEq, Repr

namespace Pattern

def besideWord (ascii : Bool) (c : Option Char) : Bool :=
  c.any fun c => Text.isWord c && (!ascii || c.toNat < 128)

def Anchor.holds (before after : Option Char) : Anchor → Bool
  | textStart => before.isNone
  | textEnd => after.isNone
  | lineStart => before.all (· == '\n')
  | lineEnd => after.all (· == '\n')
  | anyLineStart =>
    match before with
    | none => true
    | some c => c == '\n' || c == '\r' && after != some '\n'
  | anyLineEnd =>
    match after with
    | none => true
    | some c => c == '\r' || c == '\n' && before != some '\r'
  | wordEdge ascii => besideWord ascii before != besideWord ascii after
  | notWordEdge ascii => besideWord ascii before == besideWord ascii after
  | wordStart ascii => !besideWord ascii before && besideWord ascii after
  | wordEnd ascii => besideWord ascii before && !besideWord ascii after
  | noWordBefore ascii => !besideWord ascii before
  | noWordAfter ascii => !besideWord ascii after

def optional (p : Pattern) : Pattern := alt p empty

def sequence (ps : List Pattern) : Pattern :=
  match ps with
  | [] => empty
  | [p] => p
  | p :: ps => seq p (sequence ps)

def times (p : Pattern) : Nat → Pattern → Pattern
  | 0, q => q
  | n + 1, q => seq p (times p n q)

def upTo (p : Pattern) : Nat → Pattern
  | 0 => empty
  | n + 1 => optional (seq p (upTo p n))

def repeated (p : Pattern) (least : Nat) (most : Option Nat) : Pattern :=
  match most with
  | none => times p least (star p)
  | some most => times p least (upTo p (most - least))

/-- The text from `before` up to `after` that a pattern takes, by the shape of the pattern.
`before` is what stands in front of the taken text, last character first. -/
inductive Takes : Pattern → List Char → List Char → List Char → Prop where
  | empty {before after} : Takes .empty before [] after
  | anchor {a before after} (holds : a.holds before.head? after.head? = true) :
      Takes (.anchor a) before [] after
  | chars {cls c before after} (member : cls.contains c = true) :
      Takes (.chars cls) before [c] after
  | seq {p q before s t after} (first : Takes p before s (t ++ after))
      (second : Takes q (s.reverse ++ before) t after) : Takes (.seq p q) before (s ++ t) after
  | left {p q before s after} (taken : Takes p before s after) : Takes (.alt p q) before s after
  | right {p q before s after} (taken : Takes q before s after) : Takes (.alt p q) before s after
  | stop {p before after} : Takes (.star p) before [] after
  | more {p before s t after} (first : Takes p before s (t ++ after))
      (rest : Takes (.star p) (s.reverse ++ before) t after) :
      Takes (.star p) before (s ++ t) after

def Found (p : Pattern) (text : List Char) : Prop :=
  ∃ u s v, text = u ++ s ++ v ∧ Takes p u.reverse s v

end Pattern
end InfraLint
