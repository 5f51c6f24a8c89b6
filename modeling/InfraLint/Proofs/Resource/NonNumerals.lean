import InfraLint.Proofs.Numeric.Decimal
import InfraLint.Proofs.Policy.Standard
import InfraLint.Proofs.Policy.WrittenRules
import InfraLint.Proofs.Resource.Thresholds

/-!
Texts in place of a number of days. Apart from interpolations, a text reaches a minimum only if it
is a numeral or one of the words for infinity; those words reach every minimum.
-/
namespace InfraLint
open Source

variable {value : Json} {s : String} {min : Int}

theorem natAbs_le_of_fits (fits : fitsSigned 64 min = true) : min.natAbs ≤ 2 ^ 63 := by
  obtain ⟨lower, upper⟩ := Bool.and_eq_true_iff.mp fits
  have lower := of_decide_eq_true lower
  have upper := of_decide_eq_true upper
  simp only [bitBound, Nat.one_shiftLeft] at lower upper
  omega

/- Only finite minimums can be missed by a number that is infinite below. -/
theorem Binary64.le_of_not_numeral {t : List Char} (other : ¬ IsNumeral t)
    (fits : fitsSigned 64 min = true) :
    (ofText? t).any (ofInt min).le = true ↔ WritesInfinity t := by
  obtain ⟨units, finite⟩ := ofInt_finite (natAbs_le_of_fits fits)
  rw [ofText?_of_not_numeral other, writesInfinity_iff, finite]
  by_cases word : IsInfinityWord (takeSign t).2
  · rw [if_pos word, Option.any_some]
    cases (takeSign t).1 <;> simp [word, le]
  · rw [if_neg word]
    split <;> simp [word, le]

theorem Quantity.ofJson_text (isText : value.unwrapped = .string s) :
    Quantity.ofJson value = .ofString s := by
  simp only [Quantity.ofJson, isText]

theorem Quantity.atLeast_literal (isText : value.unwrapped = .string s)
    (literal : isInterpolated s = false) : (Quantity.ofJson value).atLeast min =
      (Binary64.ofText? (Text.trim s.toList)).any (Binary64.ofInt min).le := by
  rw [ofJson_text isText, ofString, if_neg (by simp [literal])]
  cases Binary64.ofText? (Text.trim s.toList) with
  | none =>
    dsimp only
    rw [Option.any_none, atLeast]
  | some x =>
    dsimp only
    rw [Option.any_some, atLeast]

theorem Requirement.keyVault_eq_atLeast {policy : Policy} {kind : String} {as : Attributes}
    (given : as.get? "soft_delete_retention_days" = some value) :
    keyVault policy kind as =
      ((Quantity.ofJson value).atLeast policy.rules.security.minSoftDeleteDays &&
        ifSet "sku_name" (acceptsText policy.rules.security.keyVaultSkus.contains) as) := by
  simp only [keyVault, given, Option.any_some]

/-- A text that is no numeral and no interpolation, against a minimum and in the two checks that
have one. It is accepted exactly if it is a word for infinity. -/
theorem non_numerals_accepted_iff (value : Json) (s : String)
    (isText : value.unwrapped = .string s) (literal : isInterpolated s = false)
    (other : ¬ IsNumeral (Text.trim s.toList)) :
    (∀ min, fitsSigned 64 min = true →
      ((Quantity.ofJson value).atLeast min = true ↔ WritesInfinity (Text.trim s.toList))) ∧
    ∀ policy : Policy, policy.rules.security.Fits → ∀ kind as,
      (∀ retention, as.get? "short_term_retention_policy" = some (.object retention) →
        Members.get? "retention_days" retention = some value →
        (Requirement.backup policy kind as = true ↔ WritesInfinity (Text.trim s.toList))) ∧
      (as.get? "soft_delete_retention_days" = some value →
        (Requirement.keyVault policy kind as = true ↔ WritesInfinity (Text.trim s.toList) ∧
          Requirement.ifSet "sku_name"
            (Requirement.acceptsText policy.rules.security.keyVaultSkus.contains) as = true)) := by
  have reached (min : Int) (fits : fitsSigned 64 min = true) :
      (Quantity.ofJson value).atLeast min = true ↔ WritesInfinity (Text.trim s.toList) := by
    rw [Quantity.atLeast_literal isText literal, Binary64.le_of_not_numeral other fits]
  refine ⟨reached, fun policy fits kind as => ⟨?_, ?_⟩⟩
  · intro retention given entry
    rw [Requirement.backup_eq_atLeast given entry, reached _ fits.backup]
  · intro given
    rw [Requirement.keyVault_eq_atLeast given, Bool.and_eq_true, reached _ fits.softDelete]

def sevenInWords : Attributes :=
  ⟨[("soft_delete_retention_days", .array [.string " seven "])]⟩

theorem sevenInWords_refused :
    (Json.string " seven ").unwrapped = .string " seven " ∧
      isInterpolated " seven " = false ∧ ¬ IsNumeral (Text.trim " seven ".toList) ∧
      fitsSigned 64 (-5) = true ∧ Policy.standard.rules.security.Fits ∧
      (Quantity.ofJson (.string " seven ")).atLeast (-5) ≠ true ∧
      Requirement.keyVault .standard "azurerm_key_vault" sevenInWords ≠ true := by
  have literal : isInterpolated " seven " = false := by decide +kernel
  have other : ¬ IsNumeral (Text.trim " seven ".toList) := by decide +kernel
  have finite : ¬ WritesInfinity (Text.trim " seven ".toList) := by decide +kernel
  have fits : Policy.standard.rules.security.Fits := by
    have read := Policy.ofRules_default Text.noProperties
    rw [← ((Policy.ofRules_eq_ok Text.noProperties).mp read).2.2.2.2]
    exact RuleSet.fits_default
  obtain ⟨reached, checks⟩ := non_numerals_accepted_iff (.string " seven ") _ rfl literal other
  refine ⟨rfl, literal, other, by decide, fits, ?_, ?_⟩
  · rw [ne_eq, reached (-5) (by decide)]
    exact finite
  · rw [ne_eq, (checks _ fits _ sevenInWords).2 rfl]
    exact fun passes => finite passes.1

/-- Infinite days reach a minimum, so that the checks pass. -/
theorem infinite_days_reach_minimum :
    ¬ ∀ (value : Json) (s : String), value.unwrapped = .string s → isInterpolated s = false →
      ¬ IsNumeral (Text.trim s.toList) →
        (∀ min, fitsSigned 64 min = true → (Quantity.ofJson value).atLeast min = false) ∧
        ∀ policy : Policy, policy.rules.security.Fits → ∀ kind as,
          (∀ retention, as.get? "short_term_retention_policy" = some (.object retention) →
            Members.get? "retention_days" retention = some value →
            Requirement.backup policy kind as = false) ∧
          (as.get? "soft_delete_retention_days" = some value →
            Requirement.keyVault policy kind as = false) := by
  intro refused
  obtain ⟨belowMinimum, _⟩ :=
    refused (.string "inf") "inf" rfl (by decide +kernel) (by decide +kernel)
  have reaches : (Quantity.ofJson (.string "inf")).atLeast 7 = true := by decide +kernel
  simp [belowMinimum 7 (by decide)] at reaches

end InfraLint
