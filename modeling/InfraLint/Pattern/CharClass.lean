import InfraLint.Text.Case
import InfraLint.Text.Digit
import InfraLint.Text.Property
import InfraLint.Text.Search
import InfraLint.Text.Word

/-!
Classes of characters, built from ranges and named classes by the set operations.
-/
namespace InfraLint.Pattern
open Text

inductive CharClass where
  | empty
  | range (first last : Nat)
  | digit
  | blank
  | word
  | property (p : Property)
  | negated (a : CharClass)
  | union (a b : CharClass)
  | both (a b : CharClass)
  | anyCase (a : CharClass)
  deriving DecidableEq, Repr

namespace CharClass

def contains : CharClass → Char → Bool
  | empty, _ => false
  | range first last, c => first ≤ c.toNat && c.toNat ≤ last
  | digit, c => isDecimalDigit c
  | blank, c => isBlank c
  | word, c => isWord c
  | property p, c => p.holds c
  | negated a, c => !a.contains c
  | union a b, c => a.contains c || b.contains c
  | both a b, c => a.contains c && b.contains c
  | anyCase a, c => (caseVariants c.toNat).any fun n => a.contains (Char.ofNat n)

def one (c : Char) : CharClass := range c.toNat c.toNat

def all : CharClass := negated empty

def ofList (cs : List CharClass) : CharClass := cs.foldl union empty

def ofRanges (rs : List (Char × Char)) : CharClass :=
  ofList (rs.map fun (a, b) => range a.toNat b.toNat)

def difference (a b : CharClass) : CharClass := both a (negated b)

def symmetricDifference (a b : CharClass) : CharClass :=
  union (difference a b) (difference b a)

def ofName? : String → Option CharClass
  | "alnum" => some (ofRanges [('0', '9'), ('A', 'Z'), ('a', 'z')])
  | "alpha" => some (ofRanges [('A', 'Z'), ('a', 'z')])
  | "ascii" => some (range 0 127)
  | "blank" => some (ofRanges [('\t', '\t'), (' ', ' ')])
  | "cntrl" => some (union (range 0 31) (range 127 127))
  | "digit" => some (ofRanges [('0', '9')])
  | "graph" => some (ofRanges [('!', '~')])
  | "lower" => some (ofRanges [('a', 'z')])
  | "print" => some (ofRanges [(' ', '~')])
  | "punct" => some (ofRanges [('!', '/'), (':', '@'), ('[', '\x60'), ('\x7b', '~')])
  | "space" => some (ofRanges [('\t', '\r'), (' ', ' ')])
  | "upper" => some (ofRanges [('A', 'Z')])
  | "word" => some (ofRanges [('0', '9'), ('A', 'Z'), ('_', '_'), ('a', 'z')])
  | "xdigit" => some (ofRanges [('0', '9'), ('A', 'F'), ('a', 'f')])
  | _ => none

def withinAscii (a : CharClass) : Bool :=
  (List.range 128).all fun n => !a.contains (Char.ofNat (n + 128))

/-- Bytes that an automaton for the class takes, counted roughly from its ranges: an estimate, not
the exact size of a compiled class. -/
def weight : CharClass → Nat
  | empty => 8
  | range first last => if last < 128 then 8 else if first < 128 then 240 else 120
  | digit => 60 * digitRanges.length
  | blank => 600
  | word => 60 * wordRanges.length
  | property p => 60 * p.rangeCount
  | negated a => a.weight + 200
  | union a b => a.weight + b.weight
  | both a b => max a.weight b.weight
  | anyCase a => a.weight + 8

end CharClass
end InfraLint.Pattern
