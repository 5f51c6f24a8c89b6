import InfraLint.Text.Blank
import InfraLint.Text.Letter
import InfraLint.Text.Range

/-!
Properties of characters by their names. The categories and a few flags are known here. The other
properties of Unicode (scripts, ages, breaks, the remaining flags) fill large tables, which whoever
reads patterns hands in.
-/
namespace InfraLint.Text

inductive Property where
  | any
  | ascii
  | categories (cs : List Category)
  | alphabetic
  | lowercase
  | uppercase
  | blank
  | ranges (rs : List CodeRange)
  deriving DecidableEq, Repr

abbrev PropertyTable := String → Option String → Option (List CodeRange)

def noProperties : PropertyTable := fun _ _ => none

namespace Property

def holds : Property → Char → Bool
  | any, _ => true
  | ascii, c => c.toNat < 128
  | categories cs, c => cs.contains (categoryOf c)
  | alphabetic, c => isAlphabetic c
  | lowercase, c => isLowercase c
  | uppercase, c => isUppercase c
  | blank, c => isBlank c
  | ranges rs, c => c.inRanges rs

/-- The number of ranges that the characters with the property form. For the flags it is rounded to
tens; it serves the rough weight of classes only. -/
def rangeCount : Property → Nat
  | any => 1
  | ascii => 1
  | categories cs =>
    (categoryRuns.filter fun r => cs.contains r.category).foldl
      (fun n r => n + if r.step = 1 then 1 else r.size) 0
  | alphabetic => 730
  | lowercase => 670
  | uppercase => 655
  | blank => 10
  | ranges rs => rs.length

/-- Names are compared without case, blanks, hyphens and underscores, and without a leading
`is`. -/
def nameKey (name : List Char) : String :=
  let key := (name.filter fun c => c.toNat < 128 && !(c == ' ' || c == '-' || c == '_')).map
    Char.toLower
  match key with
  | ['i', 's', 'c'] => "isc"
  | 'i' :: 's' :: rest => .ofList rest
  | _ => .ofList key

def category? : String → Option (List Category)
  | "lu" | "uppercaseletter" => some [.lu]
  | "ll" | "lowercaseletter" => some [.ll]
  | "lt" | "titlecaseletter" => some [.lt]
  | "lc" | "casedletter" => some [.lu, .ll, .lt]
  | "lm" | "modifierletter" => some [.lm]
  | "lo" | "otherletter" => some [.lo]
  | "l" | "letter" => some [.lu, .ll, .lt, .lm, .lo]
  | "mn" | "nonspacingmark" => some [.mn]
  | "mc" | "spacingmark" => some [.mc]
  | "me" | "enclosingmark" => some [.me]
  | "m" | "mark" | "combiningmark" => some [.mn, .mc, .me]
  | "nd" | "decimalnumber" | "digit" => some [.nd]
  | "nl" | "letternumber" => some [.nl]
  | "no" | "othernumber" => some [.no]
  | "n" | "number" => some [.nd, .nl, .no]
  | "pc" | "connectorpunctuation" => some [.pc]
  | "pd" | "dashpunctuation" => some [.pd]
  | "ps" | "openpunctuation" => some [.ps]
  | "pe" | "closepunctuation" => some [.pe]
  | "pi" | "initialpunctuation" => some [.pi]
  | "pf" | "finalpunctuation" => some [.pf]
  | "po" | "otherpunctuation" => some [.po]
  | "p" | "punctuation" | "punct" => some [.pc, .pd, .ps, .pe, .pi, .pf, .po]
  | "sm" | "mathsymbol" => some [.sm]
  | "sc" | "currencysymbol" => some [.sc]
  | "sk" | "modifiersymbol" => some [.sk]
  | "so" | "othersymbol" => some [.so]
  | "s" | "symbol" => some [.sm, .sc, .sk, .so]
  | "zs" | "spaceseparator" => some [.zs]
  | "zl" | "lineseparator" => some [.zl]
  | "zp" | "paragraphseparator" => some [.zp]
  | "z" | "separator" => some [.zs, .zl, .zp]
  | "cc" | "control" | "cntrl" => some [.cc]
  | "cf" | "format" => some [.cf]
  | "co" | "privateuse" => some [.co]
  | "cn" | "unassigned" => some [.cn]
  | "c" | "other" => some [.cc, .cf, .co, .cn]
  | _ => none

def ofCategoryName? : String → Option Property
  | "any" => some any
  | "ascii" => some ascii
  | name => (category? name).map categories

def ofName? (table : PropertyTable) (name : String) : Option Property :=
  match name with
  | "alphabetic" | "alpha" => some alphabetic
  | "lowercase" | "lower" => some lowercase
  | "uppercase" | "upper" => some uppercase
  | "whitespace" | "space" | "wspace" => some blank
  | _ => (ofCategoryName? name).or ((table name none).map ranges)

def ofValue? (table : PropertyTable) (name value : String) : Option Property :=
  match name with
  | "generalcategory" | "gc" => ofCategoryName? value
  | _ => (table name (some value)).map ranges

end Property
end InfraLint.Text
