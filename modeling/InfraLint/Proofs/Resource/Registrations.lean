import InfraLint.Resource.Plan
import Mathlib.Data.List.Forall2

/-!
Plans under catalogues that are built by registering checks, in any order and with any
identifiers. Each resource is judged by the checks for its type, in the order in which they were
registered; a check that is registered later comes last, and takes no identifier away.
-/
namespace InfraLint

/-- The catalogues that registering leads to, with the checks in the order of their registration.
A catalogue is empty at first, or holds the built-in checks. -/
inductive Catalogue.Reached : List Check → Catalogue → Prop where
  | empty : Reached [] []
  | builtin : Reached [.naming, .tags, .backup, .storage, .keyVault] Catalogue.builtin
  | register {history : List Check} {catalogue : Catalogue} (reached : Reached history catalogue)
      (check : Check) : Reached (history ++ [check]) (catalogue.register check)

def Check.IsRun (only : List String) (kind : String) (check : Check) : Prop :=
  kind ∈ check.kinds ∧ (only = [] ∨ check.id ∈ only)

instance (only : List String) (kind : String) : DecidablePred (Check.IsRun only kind) :=
  fun check => inferInstanceAs (Decidable (kind ∈ check.kinds ∧ (only = [] ∨ check.id ∈ only)))

structure Judges (policy : Policy) (r : Resource) (check : Check) (o : Outcome) : Prop where
  id : o.checkId = check.id
  name : o.checkName = check.name
  passed : o.passed = check.passes policy r.kind r.config

structure EntryOf (policy : Policy) (history : List Check) (only : List String) (r : Resource)
    (entry : ResourceOutcomes) : Prop where
  address : entry.address = r.kind ++ "." ++ r.name
  outcomes : List.Forall₂ (Judges policy r) (history.filter (Check.IsRun only r.kind))
    entry.outcomes

def ResourceOutcomes.among (only : List String) (entry : ResourceOutcomes) : ResourceOutcomes :=
  { entry with outcomes := entry.outcomes.filter fun o => o.checkId ∈ only }

def ResourceOutcomes.Extends (before after : ResourceOutcomes) : Prop :=
  after.address = before.address ∧
    ∃ added, added.length ≤ 1 ∧ after.outcomes = before.outcomes ++ added

variable {history : List Check} {catalogue : Catalogue}

/-- A catalogue holds what was registered, and nothing is lost or moved on the way. -/
theorem Catalogue.Reached.eq_history (reached : Reached history catalogue) :
    catalogue = history := by
  induction reached with
  | empty => rfl
  | builtin => rfl
  | register _ check ih => rw [ih, Catalogue.register]

theorem Catalogue.get?_register {check : Check} {id : String}
    (registered : ∃ earlier ∈ catalogue, earlier.id = id) :
    (catalogue.register check).get? id = catalogue.get? id := by
  obtain ⟨earlier, member, same⟩ := registered
  have found : (catalogue.find? fun check => check.id == id).isSome = true :=
    List.find?_isSome.mpr ⟨earlier, member, by simp [same]⟩
  rw [get?, register, List.find?_append, Option.or_of_isSome found, get?]

def Catalogue.registerAll (checks : List Check) (catalogue : Catalogue) : Catalogue :=
  checks.foldl (fun catalogue check => catalogue.register check) catalogue

theorem Catalogue.get?_registerAll {checks : List Check} {id : String}
    (registered : ∃ earlier ∈ catalogue, earlier.id = id) :
    (catalogue.registerAll checks).get? id = catalogue.get? id := by
  induction checks generalizing catalogue with
  | nil => rfl
  | cons check checks ih =>
    have kept : ∃ earlier ∈ catalogue.register check, earlier.id = id := by
      obtain ⟨earlier, member, same⟩ := registered
      exact ⟨earlier, List.mem_append_left _ member, same⟩
    calc (catalogue.registerAll (check :: checks)).get? id
        = ((catalogue.register check).registerAll checks).get? id := rfl
      _ = (catalogue.register check).get? id := ih kept
      _ = catalogue.get? id := get?_register registered

namespace Plan

variable (policy : Policy) (only : List String) (plan : Plan)

def judgment (policy : Policy) (r : Resource) (check : Check) : Outcome :=
  ⟨check.id, check.name, check.passes policy r.kind r.config⟩

theorem judgment_judges (r : Resource) (check : Check) :
    Judges policy r check (judgment policy r check) := ⟨rfl, rfl, rfl⟩

theorem outcomes_eq_map (checks : Catalogue) (r : Resource) :
    (if only.isEmpty then checks.evaluate policy r.kind r.config
      else (checks.evaluate policy r.kind r.config).filter fun o => only.contains o.checkId) =
      (checks.filter (Check.IsRun only r.kind)).map (judgment policy r) := by
  have all : checks.evaluate policy r.kind r.config =
      (checks.filter fun check => check.kinds.contains r.kind).map (judgment policy r) := rfl
  by_cases none : only = []
  · rw [all, if_pos (List.isEmpty_iff.mpr none)]
    congr 1
    apply List.filter_congr
    intro check _
    simp [Check.IsRun, none]
  · rw [all, if_neg (mt List.isEmpty_iff.mp none), List.filter_map, List.filter_filter]
    congr 1
    apply List.filter_congr
    intro check _
    rw [Bool.eq_iff_iff, Function.comp_apply, Bool.and_eq_true_iff, List.contains_iff_mem,
      List.contains_iff_mem, decide_eq_true_iff]
    simp only [Check.IsRun, none, false_or, judgment, and_comm]

theorem evaluate_eq_map (checks : Catalogue) : plan.evaluate checks policy only =
    plan.resources.map fun r =>
      ⟨r.address, (checks.filter (Check.IsRun only r.kind)).map (judgment policy r)⟩ := by
  unfold evaluate
  simp only [outcomes_eq_map]

theorem evaluate_entries (checks : Catalogue) : List.Forall₂ (EntryOf policy checks only)
    plan.resources (plan.evaluate checks policy only) := by
  rw [evaluate_eq_map, List.forall₂_map_right_iff, List.forall₂_same]
  intro r _
  refine ⟨rfl, ?_⟩
  rw [List.forall₂_map_right_iff, List.forall₂_same]
  exact fun check _ => judgment_judges policy r check

theorem evaluate_among (checks : Catalogue) (given : only ≠ []) :
    plan.evaluate checks policy only = (plan.evaluate checks policy []).map (·.among only) := by
  rw [evaluate_eq_map, evaluate_eq_map, List.map_map]
  apply List.map_congr_left
  intro r _
  simp only [Function.comp_apply, ResourceOutcomes.among, List.filter_map, List.filter_filter]
  congr 2
  apply List.filter_congr
  intro check _
  rw [Bool.eq_iff_iff, Bool.and_eq_true_iff, decide_eq_true_iff, decide_eq_true_iff,
    decide_eq_true_iff]
  simp only [Check.IsRun, given, false_or, true_or, and_true, judgment]
  exact and_comm

theorem evaluate_congr (checks : Catalogue) {others : List String}
    (same : ∀ id, id ∈ others ↔ id ∈ only) :
    plan.evaluate checks policy others = plan.evaluate checks policy only := by
  have empty : others = [] ↔ only = [] := by
    simp only [List.eq_nil_iff_forall_not_mem, same]
  have run (kind : String) : Check.IsRun others kind = Check.IsRun only kind := by
    funext check
    simp only [Check.IsRun, same, empty]
  simp only [evaluate_eq_map, run]

theorem evaluate_append (checks : Catalogue) (more : Plan) :
    (Plan.mk (plan.resources ++ more.resources)).evaluate checks policy only =
      plan.evaluate checks policy only ++ more.evaluate checks policy only :=
  List.map_append

theorem evaluate_register (checks : Catalogue) (check : Check) :
    List.Forall₂ ResourceOutcomes.Extends (plan.evaluate checks policy only)
      (plan.evaluate (checks.register check) policy only) := by
  rw [evaluate_eq_map, evaluate_eq_map, List.forall₂_map_left_iff, List.forall₂_map_right_iff,
    List.forall₂_same]
  intro r _
  refine ⟨rfl, ([check].filter (Check.IsRun only r.kind)).map (judgment policy r), ?_, ?_⟩
  · rw [List.length_map]
    exact List.length_filter_le _ [check]
  · rw [Catalogue.register, List.filter_append, List.map_append]

/-- Plans under every catalogue that can be registered: what is said, in which order, and what
changes if checks are named, plans are joined or one more check is registered. -/
theorem registered_checks_evaluated (reached : Catalogue.Reached history catalogue) :
    List.Forall₂ (EntryOf policy history only) plan.resources
      (plan.evaluate catalogue policy only) ∧
    (only ≠ [] → plan.evaluate catalogue policy only =
      (plan.evaluate catalogue policy []).map (·.among only)) ∧
    (∀ others, (∀ id, id ∈ others ↔ id ∈ only) →
      plan.evaluate catalogue policy others = plan.evaluate catalogue policy only) ∧
    (∀ more : Plan, (Plan.mk (plan.resources ++ more.resources)).evaluate catalogue policy only =
      plan.evaluate catalogue policy only ++ more.evaluate catalogue policy only) ∧
    (∀ check, List.Forall₂ ResourceOutcomes.Extends (plan.evaluate catalogue policy only)
      (plan.evaluate (catalogue.register check) policy only)) ∧
    ∀ id, (∃ earlier ∈ history, earlier.id = id) → ∀ later,
      (catalogue.registerAll later).get? id = catalogue.get? id := by
  rw [reached.eq_history]
  exact ⟨evaluate_entries policy only plan history,
    evaluate_among policy only plan history,
    fun others => evaluate_congr policy only plan history,
    evaluate_append policy only plan history,
    evaluate_register policy only plan history,
    fun id registered later => Catalogue.get?_registerAll registered⟩

/- A second check under the identifier of a built-in one, which refuses every vault. -/
def sternTags : Check where
  id := "CKV_AZURE_BIDONE_002"
  name := "Ensure that there is no vault"
  categories := []
  kinds := ["azurerm_key_vault"]
  passes := fun _ _ _ => false

def vaultAndNetwork : Plan :=
  ⟨[⟨"azurerm_key_vault", "orders", ⟨[("tags", .string "$\x7bvar.tags\x7d")]⟩⟩,
    ⟨"azurerm_virtual_network", "core", .empty⟩]⟩

theorem sternTags_evaluated :
    Catalogue.Reached (Catalogue.builtin ++ [sternTags]) (Catalogue.builtin.register sternTags) ∧
      (vaultAndNetwork.evaluate (Catalogue.builtin.register sternTags) .standard
        ["unknown", sternTags.id, sternTags.id] =
          [⟨"azurerm_key_vault.orders",
            [⟨sternTags.id, Check.tags.name, true⟩, ⟨sternTags.id, sternTags.name, false⟩]⟩,
          ⟨"azurerm_virtual_network.core", []⟩]) ∧
      ((Catalogue.builtin.register sternTags).registerAll [sternTags]).get? sternTags.id =
        (Catalogue.builtin.register sternTags).get? sternTags.id := by
  have reached : Catalogue.Reached (Catalogue.builtin ++ [sternTags])
      (Catalogue.builtin.register sternTags) := .register .builtin sternTags
  obtain ⟨_, among, _, _, _, kept⟩ := registered_checks_evaluated .standard
    ["unknown", sternTags.id, sternTags.id] vaultAndNetwork reached
  refine ⟨reached, ?_, kept sternTags.id ⟨sternTags, by simp, rfl⟩ [sternTags]⟩
  rw [among (by simp)]
  decide +kernel

end Plan
end InfraLint
