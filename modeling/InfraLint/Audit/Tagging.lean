import InfraLint.Audit.Finding
import InfraLint.Policy.RuleSet
import InfraLint.Source.Block
import InfraLint.Source.ProjectTag
import InfraLint.Source.TagMap

/-!
The tag audit: whether resource blocks carry the required tags and the expected project, and
whether the shared variable for tags has a complete default. Tags that are set by reference are
not judged.
-/
namespace InfraLint.Audit.Tagging
open Source

def variablesFile : String := "variables.tf"

def label (d : Declaration) : String :=
  match d.language with
  | .terraform => "Resource '" ++ d.address ++ "'"
  | .bicep => "Bicep resource '" ++ d.name ++ "'"

def mentionsTags (b : Block) : Bool :=
  match b.language with
  | .terraform => "tags".occursIn b.body || isInterpolated b.body
  | .bicep => "tags:".occursIn b.body || "tags =".occursIn b.body

def missingMessage (d : Declaration) : String :=
  match d.language with
  | .terraform => label d ++ " is missing tags block"
  | .bicep => label d ++ " (" ++ d.kind ++ ") is missing tags property"

/-- Whether tags that are not written out may come from elsewhere. In Bicep they always may. -/
def mayRefer (b : Block) : Bool :=
  match b.language with
  | .terraform => ["$\x7b", "var.", "local."].any (·.occursIn b.body)
  | .bicep => true

def isReference (language : Language) (tags : String) : Bool :=
  match language with
  | .terraform => "$\x7b".isPrefixOf tags
  | .bicep => false

def requiredFindings (rules : RuleSet) (d : Declaration) (tags : String) : List Finding :=
  if isReference d.language tags then []
  else (rules.missingTags tags).map fun tag =>
    ⟨.missingRequiredTag, d.address, label d ++ " is missing required tag: " ++ tag⟩

def projectFindings (rules : RuleSet) (d : Declaration) (tags : String) : List Finding :=
  match projectTag tags with
  | .literal value =>
    if value = rules.expectedProject then []
    else [⟨.incorrectProjectTag, d.address, label d ++ " has incorrect Project tag value"⟩]
  | _ => []

def blockFindings (rules : RuleSet) (b : Block) : List Finding :=
  let d := b.toDeclaration
  if rules.isTagExempt d.kind then []
  else if !mentionsTags b then [⟨.missingTags, d.address, missingMessage d⟩]
  else
    match tagMap? d.language b.body with
    | some tags => requiredFindings rules d tags ++ projectFindings rules d tags
    | none =>
      if mayRefer b then []
      else [⟨.missingTagsDefinition, d.address, label d ++ " is missing tags definition"⟩]

def variableFindings (rules : RuleSet) (content : String) : List Finding :=
  match tagsDefault? content with
  | none => []
  | some entries => (rules.missingTags entries).map fun tag =>
    ⟨.tagsVariableDefault, "var.tags",
      "Variable 'tags' default is missing required tag: " ++ tag⟩

def findings (rules : RuleSet) (language : Language) (fileName content : String) :
    List Finding :=
  (blocks language content).flatMap (blockFindings rules) ++
    if language = .terraform ∧ fileName = variablesFile then variableFindings rules content
    else []

end InfraLint.Audit.Tagging
