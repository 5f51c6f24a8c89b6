import InfraLint.Policy.Policy
import Mathlib

/-!
The policy of the default rules. Their patterns name no property, so they can be read with every
table and are the same patterns with all of them.
-/
namespace InfraLint.Policy
open Text

set_option maxRecDepth 30000 in
theorem default_patterns_read : ∃ terraform bicep azure storage : Pattern, ∀ table : PropertyTable,
    Pattern.read? table ({} : RuleSet).naming.terraformPattern = some terraform ∧
      Pattern.read? table ({} : RuleSet).naming.bicepPattern = some bicep ∧
      Pattern.read? table ({} : RuleSet).naming.azurePattern = some azure ∧
      Pattern.read? table ({} : RuleSet).naming.storagePattern = some storage := by
  refine ⟨?terraform, ?bicep, ?azure, ?storage, fun table => ⟨?_, ?_, ?_, ?_⟩⟩
  rotate_left 4
  · cbv
    rfl
  · cbv
    rfl
  · cbv
    rfl
  · cbv
    rfl

theorem ofRules_default (table : PropertyTable) : ofRules table {} = .ok standard := by
  obtain ⟨terraform, bicep, azure, storage, read⟩ := default_patterns_read
  have made (table : PropertyTable) :
      ofRules table {} = .ok ⟨{}, terraform, bicep, azure, storage⟩ := by
    obtain ⟨first, second, third, fourth⟩ := read table
    simp only [ofRules, readPattern, first, second, third, fourth]
    rfl
  simp only [standard, made]

end InfraLint.Policy
