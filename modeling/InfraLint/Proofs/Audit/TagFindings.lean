import InfraLint.Audit.Audit
import InfraLint.Proofs.Source.BlockScan
import InfraLint.Proofs.Source.ProjectKey
import InfraLint.Proofs.Source.TagPlaces
import Mathlib.Data.List.Forall2

/-!
The report of the tag audit, told from the text alone. A scan takes the blocks, and each block adds
a group of its own to the report: nothing, one remark that tags are missing as a whole, or what is
wrong with the first map of its body. Where tags may be set elsewhere, a body without a map is not
judged.
-/
namespace InfraLint.Audit.Tagging
open Source Text

variable {rules : RuleSet} {language : Language} {fileName content : String} {b : Block}
  {found : List Finding}

/- The part is a substring of the text. -/
def Within (part text : String) : Prop := ∃ u v, text.toList = u ++ part.toList ++ v

theorem occursIn_iff_within {part text : String} : part.occursIn text = true ↔ Within part text :=
  occurs_iff

instance (part text : String) : Decidable (Within part text) :=
  decidable_of_iff _ occursIn_iff_within

def Exempt (rules : RuleSet) (kind : String) : Prop :=
  ∃ part ∈ rules.tags.exemptTypes, Within part kind

def Mentioned (b : Block) : Prop :=
  match b.language with
  | .terraform => Within "tags" b.body ∨ Within "$\x7b" b.body
  | .bicep => Within "tags:" b.body ∨ Within "tags =" b.body

/- Tags that are no map in the body may come from a variable or an expression. -/
def SetElsewhere (b : Block) : Prop :=
  match b.language with
  | .terraform => Within "$\x7b" b.body ∨ Within "var." b.body ∨ Within "local." b.body
  | .bicep => True

/- An interpolation stands where the map should be. -/
def Interpolated (language : Language) (tags : String) : Prop :=
  language = .terraform ∧ ∃ s, tags.toList = '$' :: '{' :: s

/- The first place where the project can be read holds another literal than the expected one. -/
def NamesOther (rules : RuleSet) (tags : String) : Prop :=
  ∃ value, First ProjectAt none tags.toList (.literal value) ∧ value ≠ rules.expectedProject

theorem exempt_iff {kind : String} : rules.isTagExempt kind = true ↔ Exempt rules kind := by
  simp only [RuleSet.isTagExempt, List.any_eq_true, occursIn_iff_within, Exempt]

theorem mentioned_iff : mentionsTags b = true ↔ Mentioned b := by
  unfold mentionsTags Mentioned
  cases b.language <;> simp [isInterpolated, occursIn_iff_within]

theorem setElsewhere_iff : mayRefer b = true ↔ SetElsewhere b := by
  unfold mayRefer SetElsewhere
  cases b.language <;> simp [occursIn_iff_within]

theorem interpolated_iff {tags : String} :
    isReference language tags = true ↔ Interpolated language tags := by
  unfold Interpolated
  cases language with
  | bicep => simp [isReference]
  | terraform =>
    have front : isReference .terraform tags = true ↔ ['$', '{'] <+: tags.toList :=
      String.startsWith_string_iff
    rw [front]
    constructor
    · intro h
      obtain ⟨s, split⟩ := h
      exact ⟨rfl, s, split.symm⟩
    · intro h
      obtain ⟨_, s, split⟩ := h
      exact ⟨s, split.symm⟩

theorem namesOther_iff {tags : String} : NamesOther rules tags ↔
    ∃ value, projectTag tags = .literal value ∧ value ≠ rules.expectedProject := by
  simp only [NamesOther, projectTag_eq_iff _ (.literal _) (by simp)]

instance (language : Language) (tags : String) : Decidable (Interpolated language tags) :=
  decidable_of_iff _ interpolated_iff

instance (rules : RuleSet) (tags : String) : Decidable (NamesOther rules tags) :=
  match read : projectTag tags with
  | .absent => isFalse fun other => by simp [namesOther_iff, read] at other
  | .reference => isFalse fun other => by simp [namesOther_iff, read] at other
  | .literal value => decidable_of_iff (value ≠ rules.expectedProject) (by
      simp [namesOther_iff, read])

/- What is wrong with a map: required tags that are no substring of it, in their order, and then a
   project that is not the expected one. -/
def requiredFaults (rules : RuleSet) (d : Declaration) (tags : String) : List Finding :=
  if Interpolated d.language tags then []
  else (rules.requiredTags.filter fun tag => ¬ Within tag tags).map fun tag =>
    ⟨.missingRequiredTag, d.address, label d ++ " is missing required tag: " ++ tag⟩

def projectFaults (rules : RuleSet) (d : Declaration) (tags : String) : List Finding :=
  if NamesOther rules tags then
    [⟨.incorrectProjectTag, d.address, label d ++ " has incorrect Project tag value"⟩]
  else []

/- The group of a block. The cases exclude one another: each early return is a case, and all later
   ones have it among what they deny. -/
inductive BlockReported (rules : RuleSet) (b : Block) : List Finding → Prop where
  | exempt (exempt : Exempt rules b.kind) : BlockReported rules b []
  | untagged (judged : ¬ Exempt rules b.kind) (silent : ¬ Mentioned b) :
      BlockReported rules b [⟨.missingTags, b.address, missingMessage b.toDeclaration⟩]
  | undefined (judged : ¬ Exempt rules b.kind) (mentioned : Mentioned b)
      (unmapped : Unmapped b.language b.body) (here : ¬ SetElsewhere b) :
      BlockReported rules b [⟨.missingTagsDefinition, b.address,
        label b.toDeclaration ++ " is missing tags definition"⟩]
  | elsewhere (judged : ¬ Exempt rules b.kind) (mentioned : Mentioned b)
      (unmapped : Unmapped b.language b.body) (elsewhere : SetElsewhere b) :
      BlockReported rules b []
  | mapped {tags : String} (judged : ¬ Exempt rules b.kind) (mentioned : Mentioned b)
      (first : First (fun _ => TagsAt b.language) none b.body.toList tags.toList) :
      BlockReported rules b
        (requiredFaults rules b.toDeclaration tags ++ projectFaults rules b.toDeclaration tags)

/- The groups of all blocks in source order. Only the file of the shared variables has more to it:
   what is wrong with the default of the variable `tags`. -/
inductive Reported (rules : RuleSet) (language : Language) (fileName content : String) :
    List Finding → Prop where
  | mk {extracted : List Block} {groups : List (List Finding)}
      (read : Scan (BlockStarts language) content.toList extracted)
      (each : List.Forall₂ (BlockReported rules) extracted groups) :
      Reported rules language fileName content (groups.flatten ++
        if language = .terraform ∧ fileName = "variables.tf" then variableFindings rules content
        else [])

theorem missingTags_eq (rules : RuleSet) (text : String) :
    rules.missingTags text = rules.requiredTags.filter fun tag => ¬ Within tag text := by
  unfold RuleSet.missingTags
  congr 1
  funext tag
  simp [← occursIn_iff_within]

theorem requiredFaults_eq (rules : RuleSet) (d : Declaration) (tags : String) :
    requiredFaults rules d tags = requiredFindings rules d tags := by
  simp only [requiredFaults, requiredFindings, interpolated_iff, missingTags_eq]

theorem projectFaults_eq (rules : RuleSet) (d : Declaration) (tags : String) :
    projectFaults rules d tags = projectFindings rules d tags := by
  by_cases other : NamesOther rules tags
  · obtain ⟨value, read, wrong⟩ := namesOther_iff.mp other
    simp [projectFaults, projectFindings, other, read, wrong]
  · have expected : ∀ value, projectTag tags = .literal value → value = rules.expectedProject := by
      intro value read
      apply Decidable.byContradiction
      intro wrong
      exact other (namesOther_iff.mpr ⟨value, read, wrong⟩)
    cases read : projectTag tags with
    | absent => simp [projectFaults, projectFindings, other, read]
    | reference => simp [projectFaults, projectFindings, other, read]
    | literal value => simp [projectFaults, projectFindings, other, read, expected value read]

theorem blockFindings_of_reported (reported : BlockReported rules b found) :
    blockFindings rules b = found := by
  cases reported with
  | exempt exempt => simp [blockFindings, exempt_iff.mpr exempt]
  | untagged judged silent =>
    simp [blockFindings, mt exempt_iff.mp judged, mt mentioned_iff.mp silent]
  | undefined judged mentioned unmapped here =>
    simp [blockFindings, mt exempt_iff.mp judged, mentioned_iff.mpr mentioned,
      tagMap?_eq_none.mpr unmapped, mt setElsewhere_iff.mp here]
  | elsewhere judged mentioned unmapped elsewhere =>
    simp [blockFindings, mt exempt_iff.mp judged, mentioned_iff.mpr mentioned,
      tagMap?_eq_none.mpr unmapped, setElsewhere_iff.mpr elsewhere]
  | mapped judged mentioned first =>
    simp [blockFindings, mt exempt_iff.mp judged, mentioned_iff.mpr mentioned,
      tagMap?_eq_some.mpr first, requiredFaults_eq, projectFaults_eq]

/-- Every block falls under one of the cases. -/
theorem blockReported_findings (rules : RuleSet) (b : Block) :
    BlockReported rules b (blockFindings rules b) := by
  have group : ∃ found, BlockReported rules b found := by
    by_cases judged : Exempt rules b.kind
    · exact ⟨_, .exempt judged⟩
    by_cases mentioned : Mentioned b
    · cases written : tagMap? b.language b.body with
      | some tags => exact ⟨_, .mapped judged mentioned (tagMap?_eq_some.mp written)⟩
      | none =>
        have unmapped := tagMap?_eq_none.mp written
        by_cases elsewhere : SetElsewhere b
        · exact ⟨_, .elsewhere judged mentioned unmapped elsewhere⟩
        · exact ⟨_, .undefined judged mentioned unmapped elsewhere⟩
    · exact ⟨_, .untagged judged mentioned⟩
  obtain ⟨found, reported⟩ := group
  rwa [blockFindings_of_reported reported]

theorem groups_iff {extracted : List Block} {groups : List (List Finding)} :
    List.Forall₂ (BlockReported rules) extracted groups ↔
      extracted.map (blockFindings rules) = groups := by
  rw [← List.forall₂_eq_eq_eq, List.forall₂_map_left_iff]
  constructor
  · intro each
    exact each.imp fun _ _ => blockFindings_of_reported
  · intro each
    refine each.imp ?_
    intro b found same
    exact same ▸ blockReported_findings rules b

/-- The tag audit reports the groups of the blocks in source order, and for the file of the shared
variables what is wrong with the default of `tags`. -/
theorem tag_findings_reported (policy : Policy) (language : Language)
    (fileName content : String) (found : List Finding) :
    Reported policy.rules language fileName content found ↔
      Audit.tags.findings policy language fileName content = found := by
  constructor
  · intro reported
    obtain ⟨read, each⟩ := reported
    obtain rfl := scan_iff_blocks.mp read
    obtain rfl := groups_iff.mp each
    rfl
  · intro same
    subst same
    have read := scan_iff_blocks.mpr (rfl : blocks language content = _)
    exact .mk read (groups_iff.mpr rfl)

/- Of the first resource the tags may be set in a module, the map of the second one lacks a tag and
   names another project, and the third one has no tags. -/
def threeVaults : String :=
  "resource \"azurerm_key_vault\" \"a\" \x7b\n  tags = var.tags\n\x7d\n" ++
  "resource \"azurerm_key_vault\" \"b\" \x7b\n  tags = \x7b\n    Project = \"Other\"\n" ++
  "    ManagedBy = \"Terraform\"\n  \x7d\n\x7d\n" ++
  "resource \"azurerm_key_vault\" \"c\" \x7b\n\x7d\n"

def threeFindings : List Finding := [
  ⟨.missingRequiredTag, "azurerm_key_vault.b",
    "Resource 'azurerm_key_vault.b' is missing required tag: Environment"⟩,
  ⟨.incorrectProjectTag, "azurerm_key_vault.b",
    "Resource 'azurerm_key_vault.b' has incorrect Project tag value"⟩,
  ⟨.missingTags, "azurerm_key_vault.c",
    "Resource 'azurerm_key_vault.c' is missing tags block"⟩]

theorem threeVaults_reported :
    Reported Policy.standard.rules .terraform "main.tf" threeVaults threeFindings ∧
      ¬ Reported Policy.standard.rules .terraform "main.tf" threeVaults threeFindings.reverse := by
  have all : Audit.tags.findings .standard .terraform "main.tf" threeVaults = threeFindings := by
    decide +kernel
  rw [tag_findings_reported .standard .terraform "main.tf" threeVaults threeFindings,
    tag_findings_reported .standard .terraform "main.tf" threeVaults threeFindings.reverse, all]
  exact ⟨rfl, by decide⟩

end InfraLint.Audit.Tagging
