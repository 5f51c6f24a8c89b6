import InfraLint.Proofs.Json.Objects
import InfraLint.Resource.Plan

/-!
Three ways to evaluate a resource: from a value, from the text of its attributes, and as the only
resource of a plan. They take the same attributes, the objects, and come to the same outcomes.
-/
namespace InfraLint

variable {kind name text : String} {as : Attributes} {v : Json} {outcomes : List Outcome}

namespace Attributes

theorem reader_eq_ok {fuel room : Nat} {c c' : Json.Cursor} :
    reader fuel room c = .ok (as, c') ↔ Json.Reader.value fuel room c = .ok (as.toJson, c') := by
  rw [toJson, ← Json.Reader.mapOf_value, reader, Json.Reader.bind_eq_ok]
  constructor
  · rintro ⟨ms, middle, taken, same⟩
    cases same
    exact taken
  · intro taken
    exact ⟨as.members, c', taken, rfl⟩

/-- A text of attributes is a text of an object. -/
theorem read_eq_ok : read text = .ok as ↔ Json.read text = .ok as.toJson := by
  simp only [read, Json.read, Json.Reader.run_eq_ok, reader_eq_ok]

theorem ofJson_eq_ok : ofJson v = .ok as ↔ v = as.toJson := by
  obtain ⟨members⟩ := as
  cases v <;> simp [ofJson, toJson]

end Attributes

theorem evaluateResource_eq_ok : evaluateResource kind v = .ok outcomes ↔
    ∃ as, v = as.toJson ∧ outcomes = Catalogue.builtin.evaluate .standard kind as := by
  simp only [← Attributes.ofJson_eq_ok]
  unfold evaluateResource
  cases Attributes.ofJson v with
  | error e => simp [bind, Except.bind]
  | ok as => simp [bind, Except.bind, pure, Except.pure, eq_comm]

theorem Plan.evaluate_single (catalogue : Catalogue) (policy : Policy) (kind name : String)
    (as : Attributes) : (Plan.mk [⟨kind, name, as⟩]).evaluate catalogue policy [] =
      [⟨kind ++ "." ++ name, catalogue.evaluate policy kind as⟩] := rfl

/-- The text of a value is evaluated in all three ways or in none, and in all of them exactly if
the value is an object. Then the outcomes are the same. The text of no value has no attributes. -/
theorem evaluations_agree (kind name text : String) :
    (∀ v, Json.read text = .ok v →
      ((∃ outcomes, evaluateResource kind v = .ok outcomes) ↔
        ∃ as, Attributes.read text = .ok as) ∧
      ((∃ as, Attributes.read text = .ok as) ↔ ∃ members, v = .object members) ∧
      ∀ outcomes, evaluateResource kind v = .ok outcomes → ∃ as, Attributes.read text = .ok as ∧
        Catalogue.builtin.evaluate .standard kind as = outcomes ∧
        (Plan.mk [⟨kind, name, as⟩]).evaluate .builtin .standard [] =
          [⟨kind ++ "." ++ name, outcomes⟩]) ∧
    ∀ e, Json.read text = .error e → ∃ e', Attributes.read text = .error e' := by
  constructor
  · intro v valid
    have taken (as : Attributes) : Attributes.read text = .ok as ↔ v = as.toJson := by
      rw [Attributes.read_eq_ok, valid, Except.ok.injEq]
    simp only [taken, evaluateResource_eq_ok]
    refine ⟨?_, ?_, ?_⟩
    · constructor
      · rintro ⟨_, as, same, _⟩
        exact ⟨as, same⟩
      · rintro ⟨as, same⟩
        exact ⟨_, as, same, rfl⟩
    · constructor
      · rintro ⟨as, same⟩
        exact ⟨as.members, same⟩
      · rintro ⟨members, same⟩
        exact ⟨⟨members⟩, same⟩
    · rintro _ ⟨as, same, rfl⟩
      exact ⟨as, same, rfl, Plan.evaluate_single _ _ _ _ _⟩
  · intro e invalid
    cases given : Attributes.read text with
    | error e' => exact ⟨e', rfl⟩
    | ok as => cases invalid.symm.trans (Attributes.read_eq_ok.mp given)

/- The name is given twice, and what counts is the last one. -/
def renamedAccount : String :=
  "\x7b\"name\": \"Main Vault\", \"account_tier\": \"Standard\", \"name\": \"orders01\"\x7d"

theorem renamedAccount_agrees :
    (∃ as, Attributes.read renamedAccount = .ok as ∧
      (Plan.mk [⟨"azurerm_storage_account", "main", as⟩]).evaluate .builtin .standard [] =
        [⟨"azurerm_storage_account.main",
          [⟨Check.naming.id, Check.naming.name, true⟩, ⟨Check.tags.id, Check.tags.name, false⟩,
            ⟨Check.storage.id, Check.storage.name, true⟩]⟩]) ∧
      ¬ ∃ as, Attributes.read "[\x7b\x7d]" = .ok as := by
  have read : Json.read renamedAccount = .ok (.object
      [("account_tier", .string "Standard"), ("name", .string "orders01")]) := rfl
  have other : Json.read "[\x7b\x7d]" = .ok (.array [.object []]) := rfl
  obtain ⟨-, -, same⟩ := (evaluations_agree "azurerm_storage_account" "main" _).1 _ read
  constructor
  · obtain ⟨as, given, -, planned⟩ := same _ rfl
    refine ⟨as, given, planned.trans ?_⟩
    decide +kernel
  · rw [((evaluations_agree "azurerm_storage_account" "main" _).1 _ other).2.1]
    rintro ⟨members, same⟩
    cases same

end InfraLint
