/-!
The two languages whose sources are checked, told apart by file extension.
-/
namespace InfraLint.Source

inductive Language where
  | terraform
  | bicep
  deriving DecidableEq, Repr

def Language.extension : Language → String
  | .terraform => "tf"
  | .bicep => "bicep"

def Language.label : Language → String
  | .terraform => "terraform"
  | .bicep => "bicep"

def Language.ofExtension? (extension : String) : Option Language :=
  [Language.terraform, .bicep].find? (·.extension = extension)

def Language.ofLabel? (label : String) : Option Language :=
  [Language.terraform, .bicep].find? (·.label = label)

end InfraLint.Source
