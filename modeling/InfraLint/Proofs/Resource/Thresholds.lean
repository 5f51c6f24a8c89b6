import InfraLint.Proofs.Numeric.Rounding
import InfraLint.Resource.Check

/-!
Minimums of whole days. The minimum and the days are both rounded before they are compared. No
integer that reaches its minimum is refused for that, and as long as the minimum is not rounded,
no other one is accepted.
-/
namespace InfraLint

/-- The minimums that are kept by rounding, and whose predecessors are kept as well. -/
def IsExactMinimum (min : Int) : Prop := -2 ^ 53 < min ∧ min ≤ 2 ^ 53

instance (min : Int) : Decidable (IsExactMinimum min) :=
  inferInstanceAs (Decidable (-2 ^ 53 < min ∧ min ≤ 2 ^ 53))

variable {value : Json} {n min : Int}

theorem Quantity.ofJson_int (isInt : value.unwrapped = .int n) :
    Quantity.ofJson value = .known (.ofInt n) := by
  simp only [Quantity.ofJson, isInt]

theorem Quantity.atLeast_of_le (isInt : value.unwrapped = .int n) (reached : min ≤ n) :
    (Quantity.ofJson value).atLeast min = true := by
  rw [ofJson_int isInt, atLeast]
  exact Binary64.ofInt_mono reached

theorem Quantity.atLeast_iff (isInt : value.unwrapped = .int n) (exact : IsExactMinimum min) :
    (Quantity.ofJson value).atLeast min = true ↔ min ≤ n := by
  refine ⟨fun accepted => ?_, atLeast_of_le isInt⟩
  rw [ofJson_int isInt, atLeast] at accepted
  exact Binary64.le_of_ofInt_le exact.1 exact.2 accepted

namespace Requirement

variable {policy : Policy} {kind : String} {as : Attributes} {retention : Members Json}
  {days : Json}

theorem backup_eq_atLeast
    (given : as.get? "short_term_retention_policy" = some (.object retention))
    (entry : Members.get? "retention_days" retention = some days) :
    backup policy kind as =
      (Quantity.ofJson days).atLeast policy.rules.security.minBackupDays := by
  simp only [backup, given, entry]

theorem keyVault_eq_false (given : as.get? "soft_delete_retention_days" = some days)
    (refused : ¬(Quantity.ofJson days).atLeast policy.rules.security.minSoftDeleteDays = true) :
    keyVault policy kind as = false := by
  simp [keyVault, given, refused]

end Requirement

/-- Whole days against a minimum, bare or in a list of one: as numbers, and as the two checks that
have a minimum compare them. -/
theorem whole_days_compared (value : Json) (n : Int) (isInt : value.unwrapped = .int n) :
    (∀ min ≤ n, (Quantity.ofJson value).atLeast min = true) ∧
    (∀ min, IsExactMinimum min → (Quantity.ofJson value).atLeast min = true → min ≤ n) ∧
    ∀ policy kind as,
      (∀ retention, as.get? "short_term_retention_policy" = some (.object retention) →
        Members.get? "retention_days" retention = some value →
        IsExactMinimum policy.rules.security.minBackupDays →
        (Requirement.backup policy kind as = true ↔ policy.rules.security.minBackupDays ≤ n)) ∧
      (as.get? "soft_delete_retention_days" = some value →
        IsExactMinimum policy.rules.security.minSoftDeleteDays →
        n < policy.rules.security.minSoftDeleteDays →
        Requirement.keyVault policy kind as = false) := by
  refine ⟨fun min reached => Quantity.atLeast_of_le isInt reached,
    fun min exact => (Quantity.atLeast_iff isInt exact).mp, fun policy kind as => ⟨?_, ?_⟩⟩
  · intro retention given entry exact
    rw [Requirement.backup_eq_atLeast given entry, Quantity.atLeast_iff isInt exact]
  · intro given exact below
    apply Requirement.keyVault_eq_false given
    rw [Quantity.atLeast_iff isInt exact]
    omega

/- The largest minimum that is compared exactly, for backups and for deleted vaults. -/
def longestDays : Policy :=
  { Policy.standard with
    rules.security.minBackupDays := 2 ^ 53
    rules.security.minSoftDeleteDays := 2 ^ 53 }

def almostLongestDays : Json := .array [.int (2 ^ 53 - 1)]

theorem almostLongestDays_refused :
    almostLongestDays.unwrapped = .int (2 ^ 53 - 1) ∧ IsExactMinimum (2 ^ 53) ∧
      (Quantity.ofJson almostLongestDays).atLeast (2 ^ 53 - 1) = true ∧
      (Quantity.ofJson almostLongestDays).atLeast (2 ^ 53) ≠ true ∧
      Requirement.backup longestDays "azurerm_mssql_database"
        ⟨[("short_term_retention_policy",
          .array [.object [("retention_days", almostLongestDays)]])]⟩ ≠ true ∧
      Requirement.keyVault longestDays "azurerm_key_vault"
        ⟨[("soft_delete_retention_days", .array [almostLongestDays])]⟩ = false := by
  have exact : IsExactMinimum (2 ^ 53) := by decide
  obtain ⟨accepted, reached, checks⟩ := whole_days_compared almostLongestDays (2 ^ 53 - 1) rfl
  refine ⟨rfl, exact, accepted _ (by decide), ?_, ?_, ?_⟩
  · intro atLeast
    exact absurd (reached (2 ^ 53) exact atLeast) (by decide)
  · intro passes
    have days := ((checks longestDays "azurerm_mssql_database" _).1
      [("retention_days", almostLongestDays)] rfl rfl exact).mp passes
    exact absurd days (by decide)
  · exact (checks longestDays "azurerm_key_vault" _).2 rfl exact (by decide)

/- Beyond that, the minimum itself or the days below it are rounded. -/
example : (Quantity.ofJson (.int (2 ^ 53))).atLeast (2 ^ 53 + 1) = true := by decide +kernel

example : (Quantity.ofJson (.int (-2 ^ 53 - 1))).atLeast (-2 ^ 53) = true := by decide +kernel

end InfraLint
