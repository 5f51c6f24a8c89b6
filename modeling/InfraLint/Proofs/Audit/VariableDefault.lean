import InfraLint.Proofs.Audit.TagFindings
import InfraLint.Proofs.Source.TagsVariable

/-!
The default of the variable `tags` is judged by its entries alone, whatever else the file of the
shared variables declares.
-/
namespace InfraLint.Audit.Tagging
open Source Text

/- Required tags that are no substring of the entries, in their order. -/
def defaultFaults (rules : RuleSet) (entries : String) : List Finding :=
  (rules.requiredTags.filter fun tag => ¬ Within tag entries).map fun tag =>
    ⟨.tagsVariableDefault, "var.tags",
      "Variable 'tags' default is missing required tag: " ++ tag⟩

theorem variableFindings_text (rules : RuleSet) (w : TagsVariable) :
    variableFindings rules w.text = defaultFaults rules (.ofList w.entries) := by
  simp only [variableFindings, w.tagsDefault?_text, missingTags_eq, defaultFaults]

/-- The variable's own default decides, and without the variable nothing is reported. -/
theorem tags_default_judged (rules : RuleSet) :
    (∀ w : TagsVariable,
      variableFindings rules w.text = defaultFaults rules (.ofList w.entries)) ∧
    ∀ content, NoTagsVariable content → variableFindings rules content = [] := by
  refine ⟨variableFindings_text rules, ?_⟩
  intro content nowhere
  rw [variableFindings, tagsDefault?_noVariable nowhere]

/- A variable for tags behind another variable that has a map for its default, and in front of one
   more with a default of its own. -/
def sharedTags : TagsVariable where
  ahead := "variable \"sizes\" \x7b\n  default = \x7b\n    small = 1\n  \x7d\n\x7d\n".toList
  gap := [' ']
  space := [' ']
  above := "\n  type = object(\x7b Project = string \x7d)\n  ".toList
  left := [' ']
  right := [' ']
  entries := "\n    Environment = \"dev\"\n  ".toList
  below := "\n  validation \x7b\n    condition = true\n  \x7d\n".toList
  behind := "\nvariable \"tags\" \x7b\n  default = \x7b\x7d\n\x7d\n".toList
  first := fun declares => absurd (tags_of_declares declares) (by decide +kernel)
  gap_given := ⟨List.cons_ne_nil _ _, space_allBlank⟩
  space_blank := space_allBlank
  above_balanced := by decide +kernel
  above_silent := by decide +kernel
  left_blank := space_allBlank
  right_blank := space_allBlank
  entries_unbraced := by decide +kernel
  below_balanced := by decide +kernel

def otherVariables : String := "variable \"extra_tags\" \x7b\n  default = \x7b\x7d\n\x7d\n"

theorem sharedTags_judged :
    variableFindings {} sharedTags.text = ["Project", "ManagedBy"].map (fun tag =>
      ⟨.tagsVariableDefault, "var.tags",
        "Variable 'tags' default is missing required tag: " ++ tag⟩) ∧
    variableFindings {} otherVariables = [] := by
  obtain ⟨ofDefault, ofNothing⟩ := tags_default_judged {}
  have none : NoTagsVariable otherVariables := by decide +kernel
  refine ⟨(ofDefault sharedTags).trans ?_, ofNothing otherVariables none⟩
  decide +kernel

end InfraLint.Audit.Tagging
