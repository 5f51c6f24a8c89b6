/-!
Findings: what an audit of a source text has to say about a resource, a variable or a value.
-/
namespace InfraLint

inductive FindingKind where
  | resourceNaming
  | genericName
  | nameValue
  | missingTags
  | missingTagsDefinition
  | missingRequiredTag
  | incorrectProjectTag
  | tagsVariableDefault
  deriving DecidableEq, Repr

def FindingKind.label : FindingKind → String
  | resourceNaming => "resource_naming"
  | genericName => "generic_name"
  | nameValue => "name_value"
  | missingTags => "missing_tags"
  | missingTagsDefinition => "missing_tags_definition"
  | missingRequiredTag => "missing_required_tag"
  | incorrectProjectTag => "incorrect_project_tag"
  | tagsVariableDefault => "tags_variable_default"

def FindingKind.isNaming : FindingKind → Bool
  | resourceNaming => true
  | genericName => true
  | nameValue => true
  | _ => false

structure Finding where
  kind : FindingKind
  subject : String
  message : String
  deriving DecidableEq, Repr

end InfraLint
