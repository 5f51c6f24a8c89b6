import InfraLint.Source.Language
import InfraLint.Text.Blank
import InfraLint.Text.Search
import InfraLint.Text.Word

/-!
Resource declarations. Terraform writes `resource "type" "name" {`, Bicep
`resource name 'type' =`; white space between the parts is free, line breaks included.
-/
namespace InfraLint.Source
open Text

structure Declaration where
  language : Language
  kind : String
  name : String
  deriving DecidableEq, Repr

def Declaration.address (d : Declaration) : String :=
  match d.language with
  | .terraform => d.kind ++ "." ++ d.name
  | .bicep => d.name

def word? (s : List Char) : Option (List Char × List Char) :=
  match s.takeWhile isWord with
  | [] => none
  | w => some (w, s.dropWhile isWord)

/-- The words `resource`, type and name. In Terraform the text behind starts where the opening
brace should be, in Bicep behind the equals sign. -/
def header? (language : Language) (s : List Char) : Option (Declaration × List Char) := do
  let s ← after? "resource".toList s
  let s ← blank? s
  match language with
  | .terraform =>
    let (kind, s) ← quoted? '"' s
    let s ← blank? s
    let (name, s) ← quoted? '"' s
    return (⟨language, .ofList kind, .ofList name⟩, skipBlank s)
  | .bicep =>
    let (name, s) ← word? s
    let s ← blank? s
    let (kind, s) ← quoted? '\'' s
    let s ← after? ['='] (skipBlank s)
    return (⟨language, .ofList kind, .ofList name⟩, s)

def declaration? (language : Language) (s : List Char) : Option (Declaration × List Char) := do
  let (d, s) ← header? language s
  match language with
  | .terraform => return (d, ← after? ['{'] s)
  | .bicep => return (d, s)

def declarations (language : Language) (content : String) : List Declaration :=
  findAll (declaration? language) content.toList

end InfraLint.Source
