import InfraLint.Pattern.CharClass

/-!
Classes of characters as they stand behind `\p`: the name of a property, or a name and a value
with `=`, `:` or `!=` between them.
-/
namespace InfraLint.Pattern
open Text

def splitAt? (mark : List Char) : List Char → Option (List Char × List Char)
  | [] => none
  | c :: s =>
    match after? mark (c :: s) with
    | some rest => some ([], rest)
    | none => (splitAt? mark s).map fun (first, rest) => (c :: first, rest)

namespace CharClass

def ofValue? (table : PropertyTable) (name value : List Char) : Option CharClass :=
  (Property.ofValue? table (Property.nameKey name) (Property.nameKey value)).map property

def ofProperty? (table : PropertyTable) (text : List Char) : Option CharClass :=
  match splitAt? ['!', '='] text, splitAt? [':'] text, splitAt? ['='] text with
  | some (name, value), _, _ => (ofValue? table name value).map negated
  | none, some (name, value), _ => ofValue? table name value
  | none, none, some (name, value) => ofValue? table name value
  | none, none, none => (Property.ofName? table (Property.nameKey text)).map property

end CharClass
end InfraLint.Pattern
