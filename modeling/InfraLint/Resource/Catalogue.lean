import InfraLint.Resource.Check

/-!
Catalogues of checks, in the order in which the checks are run. An identifier may occur more than
once; looking it up finds its first check.
-/
namespace InfraLint

structure Outcome where
  checkId : String
  checkName : String
  passed : Bool
  deriving DecidableEq, Repr

def Outcome.result (o : Outcome) : String := if o.passed then "PASSED" else "FAILED"

abbrev Catalogue := List Check

namespace Catalogue

def builtin : Catalogue := [.naming, .tags, .backup, .storage, .keyVault]

def register (check : Check) (catalogue : Catalogue) : Catalogue := catalogue ++ [check]

def get? (id : String) (catalogue : Catalogue) : Option Check :=
  List.find? (fun check => check.id == id) catalogue

def applicable (kind : String) (catalogue : Catalogue) : Catalogue :=
  List.filter (fun check => check.kinds.contains kind) catalogue

def evaluate (policy : Policy) (kind : String) (as : Attributes) (catalogue : Catalogue) :
    List Outcome :=
  (catalogue.applicable kind).map fun check =>
    ⟨check.id, check.name, check.passes policy kind as⟩

end Catalogue

def evaluateResource (kind : String) (value : Json) : Except Json.Error (List Outcome) := do
  return Catalogue.builtin.evaluate .standard kind (← Attributes.ofJson value)

end InfraLint
