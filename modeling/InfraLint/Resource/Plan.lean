import InfraLint.Resource.Catalogue

/-!
Plans: lists of resources to evaluate. A plan is a JSON object with the member `resources`; each
resource has a `type`, a `name` and, if it has attributes, a `config`. Other members are passed
over. A record may also be written as the list of its fields.
-/
namespace InfraLint

structure Resource where
  kind : String
  name : String
  config : Attributes := .empty

def Resource.address (r : Resource) : String := r.kind ++ "." ++ r.name

structure Plan where
  resources : List Resource

structure ResourceOutcomes where
  address : String
  outcomes : List Outcome
  deriving DecidableEq, Repr

def ResourceOutcomes.failed (r : ResourceOutcomes) : List Outcome :=
  r.outcomes.filter (!·.passed)

namespace Resource
open Json Reader

structure Fields where
  kind : Option String := none
  name : Option String := none
  config : Option Attributes := none

def member (fuel room : Nat) (key : String) (fs : Fields) : Reader Fields :=
  match key with
  | "type" => do return { fs with kind := ← field key fs.kind (stringValue fuel) }
  | "name" => do return { fs with name := ← field key fs.name (stringValue fuel) }
  | "config" => do return { fs with config := ← field key fs.config (Attributes.reader fuel room) }
  | _ => do
    skipMember fuel
    return fs

def ofMembers (fuel room : Nat) : Reader Resource := do
  let fs ← members (member fuel room) fuel true {}
  let kind ← required "type" fs.kind
  let name ← required "name" fs.name
  return ⟨kind, name, fs.config.getD .empty⟩

def ofItems (fuel room : Nat) : Reader Resource := do
  let expected := "struct PlanResource with 3 elements"
  let kind ← positional true (.wrongLength 0 expected) (stringValue fuel)
  let name ← positional false (.wrongLength 1 expected) (stringValue fuel)
  if ← anotherItem false then return ⟨kind, name, ← Attributes.reader fuel room⟩
  else return ⟨kind, name, .empty⟩

def reader (fuel room : Nat) : Reader Resource :=
  record fuel room "PlanResource" (ofMembers fuel) (ofItems fuel)

def toJson (r : Resource) : Json :=
  .object [("type", .string r.kind), ("name", .string r.name), ("config", r.config.toJson)]

end Resource

namespace Plan
open Json Reader

def member (fuel room : Nat) (key : String) (resources : Option (List Resource)) :
    Reader (Option (List Resource)) :=
  match key with
  | "resources" => field key resources (listOf fuel room (Resource.reader fuel))
  | _ => do
    skipMember fuel
    return resources

def ofMembers (fuel room : Nat) : Reader Plan := do
  return ⟨← required "resources" (← members (member fuel room) fuel true none)⟩

def ofItems (fuel room : Nat) : Reader Plan := do
  return ⟨← positional true (.wrongLength 0 "struct Plan with 1 element")
    (listOf fuel room (Resource.reader fuel))⟩

def read (text : String) : Except Json.Error Plan :=
  run (fun fuel => record fuel deepest "Plan" (ofMembers fuel) (ofItems fuel)) text

def toJson (plan : Plan) : Json :=
  .object [("resources", .array (plan.resources.map Resource.toJson))]

/-- The outcomes for every resource. If `only` names checks, the others are left out. -/
def evaluate (catalogue : Catalogue) (policy : Policy) (only : List String) (plan : Plan) :
    List ResourceOutcomes :=
  plan.resources.map fun r =>
    let outcomes := catalogue.evaluate policy r.kind r.config
    ⟨r.address, if only.isEmpty then outcomes
      else outcomes.filter fun o => only.contains o.checkId⟩

end Plan
end InfraLint
