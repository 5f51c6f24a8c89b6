import InfraLint.Audit.Naming
import InfraLint.Resource.Check
import Mathlib.Data.Fintype.EquivFin

/-!
Literal names in Terraform sources. The audit of a source and the check of a resource refuse the
same ones: a value is reported exactly when the naming check fails on it for resources of every
type. The variable and the storage marker only choose the words of the report.
-/
namespace InfraLint
open Source

def Attributes.named (name : String) : Attributes := ⟨[("name", .string name)]⟩

def RuleSet.withMarker (marker : String) (rules : RuleSet) : RuleSet :=
  { rules with naming := { rules.naming with storageMarker := marker } }

def Finding.about (f : Finding) : FindingKind × String := (f.kind, f.subject)

namespace Audit.Naming

variable {policy : Policy} {value : String}

/-- The naming check fails on the name, in storage types and in all others. -/
structure RefusedEverywhere (policy : Policy) (value : String) : Prop where
  storage : ∀ kind ∈ policy.rules.naming.storageTypes,
    Check.naming.passes policy kind (.named value) = false
  others : ∀ kind ∉ policy.rules.naming.storageTypes,
    Check.naming.passes policy kind (.named value) = false

theorem passes_named (policy : Policy) (kind value : String) :
    Check.naming.passes policy kind (.named value) =
      (isInterpolated value || Requirement.isProperName policy kind value) := rfl

theorem exists_other_kind (kinds : List String) : ∃ kind, kind ∉ kinds := by
  obtain ⟨kind, outside⟩ := Infinite.exists_notMem_finset kinds.toFinset
  exact ⟨kind, by simpa using outside⟩

theorem refusedEverywhere_iff : RefusedEverywhere policy value ↔
    isInterpolated value = false ∧ policy.isAzureName value = false ∧
      (policy.rules.naming.storageTypes ≠ [] → policy.isStorageName value = false) := by
  have inside : ∀ kind ∈ policy.rules.naming.storageTypes,
      Requirement.isProperName policy kind value = policy.isStorageName value := by
    intro kind member
    simp [Requirement.isProperName, RuleSet.usesStorageNaming, member]
  have outside : ∀ kind ∉ policy.rules.naming.storageTypes,
      Requirement.isProperName policy kind value = policy.isAzureName value := by
    intro kind other
    simp [Requirement.isProperName, RuleSet.usesStorageNaming, other]
  constructor
  · rintro ⟨storage, others⟩
    obtain ⟨other, apart⟩ := exists_other_kind policy.rules.naming.storageTypes
    have refused := others other apart
    rw [passes_named, outside other apart, Bool.or_eq_false_iff] at refused
    refine ⟨refused.1, refused.2, ?_⟩
    intro some
    obtain ⟨kind, member⟩ := List.exists_mem_of_ne_nil _ some
    have refused := storage kind member
    rw [passes_named, inside kind member, Bool.or_eq_false_iff] at refused
    exact refused.2
  · rintro ⟨plain, azure, storage⟩
    constructor
    · intro kind member
      rw [passes_named, inside kind member, plain, storage (List.ne_nil_of_mem member)]
      rfl
    · intro kind other
      rw [passes_named, outside kind other, plain, azure]
      rfl

def isAcceptedValue (policy : Policy) (value : String) : Bool :=
  isInterpolated value || policy.isAzureName value || policy.isStorageName value

def valueMessage (policy : Policy) (a : Assignment) : String :=
  if isStorageVariable policy.rules a.target then storageNameMessage a.value
  else resourceNameMessage a.value

/- The variable leads to one of two branches, and both of them accept the same values. -/
theorem assignmentFindings_eq (policy : Policy) (a : Assignment) :
    assignmentFindings policy a = if isAcceptedValue policy a.value then []
      else [⟨.nameValue, a.target, valueMessage policy a⟩] := by
  unfold assignmentFindings isAcceptedValue valueMessage
  by_cases early : (isInterpolated a.value || policy.isAzureName a.value) = true
  · simp only [early, Bool.true_or, if_true]
  · rw [Bool.not_eq_true] at early
    simp only [early, Bool.false_or, Bool.false_eq_true, if_false]
    by_cases marked : isStorageVariable policy.rules a.target = true <;> simp only [marked] <;> rfl

instance (policy : Policy) (value : String) : Decidable (RefusedEverywhere policy value) :=
  decidable_of_iff _ refusedEverywhere_iff.symm

theorem refusedEverywhere_iff_not_accepted
    (storage : policy.rules.naming.storageTypes ≠ []) :
    RefusedEverywhere policy value ↔ isAcceptedValue policy value = false := by
  rw [refusedEverywhere_iff, isAcceptedValue]
  simp [storage, and_assoc]

theorem declarationFindings_kind {d : Declaration} {f : Finding}
    (member : f ∈ declarationFindings policy d) : f.kind ≠ .nameValue := by
  simp only [declarationFindings, List.mem_append] at member
  rcases member with casing | generic
  · split at casing
    · simp at casing
    · obtain rfl := List.mem_singleton.mp casing
      simp
  · split at generic
    · obtain rfl := List.mem_singleton.mp generic
      simp
    · simp at generic

theorem assignmentFindings_kind {a : Assignment} {f : Finding}
    (member : f ∈ assignmentFindings policy a) : f.kind = .nameValue := by
  rw [assignmentFindings_eq] at member
  split at member
  · simp at member
  · obtain rfl := List.mem_singleton.mp member
    rfl

theorem nameValue_findings (policy : Policy) (content : String) :
    (findings policy .terraform content).filter (·.kind = .nameValue) =
      (assignments content).flatMap (assignmentFindings policy) := by
  have declared : ((declarations .terraform content).flatMap
      (declarationFindings policy)).filter (·.kind = .nameValue) = [] := by
    rw [List.filter_eq_nil_iff]
    intro f member
    obtain ⟨d, _, found⟩ := List.mem_flatMap.mp member
    simpa using declarationFindings_kind found
  have assigned : ((assignments content).flatMap
      (assignmentFindings policy)).filter (·.kind = .nameValue) =
        (assignments content).flatMap (assignmentFindings policy) := by
    rw [List.filter_eq_self]
    intro f member
    obtain ⟨a, _, found⟩ := List.mem_flatMap.mp member
    simpa using assignmentFindings_kind found
  rw [findings, List.filter_append, declared, assigned, List.nil_append]

theorem assignmentFindings_refused (storage : policy.rules.naming.storageTypes ≠ [])
    (a : Assignment) : assignmentFindings policy a =
      if RefusedEverywhere policy a.value then
        [⟨.nameValue, a.target, valueMessage policy a⟩] else [] := by
  by_cases refused : RefusedEverywhere policy a.value
  · have unaccepted := (refusedEverywhere_iff_not_accepted storage).mp refused
    simp [assignmentFindings_eq, unaccepted, refused]
  · have accepted := mt (refusedEverywhere_iff_not_accepted storage).mpr refused
    simp [assignmentFindings_eq, accepted, refused]

theorem flatMap_if {α β : Type} (p : α → Prop) [DecidablePred p] (f : α → β) (xs : List α) :
    xs.flatMap (fun x => if p x then [f x] else []) = (xs.filter p).map f := by
  induction xs with
  | nil => rfl
  | cons x xs ih =>
    by_cases holds : p x <;> simp [holds, ih]

/-! The storage marker -/

def withMarker (marker : String) (policy : Policy) : Policy :=
  { policy with rules := policy.rules.withMarker marker }

theorem ofRules_withMarker (table : Text.PropertyTable) (rules : RuleSet) (marker : String) :
    Policy.ofRules table (rules.withMarker marker) =
      (Policy.ofRules table rules).map (withMarker marker) := by
  simp only [Policy.ofRules, RuleSet.withMarker]
  generalize Policy.readPattern _ _ rules.naming.terraformPattern = terraform
  generalize Policy.readPattern _ _ rules.naming.bicepPattern = bicep
  generalize Policy.readPattern _ _ rules.naming.azurePattern = azure
  generalize Policy.readPattern _ _ rules.naming.storagePattern = storage
  cases terraform <;> cases bicep <;> cases azure <;> cases storage <;> rfl

theorem findings_withMarker (marker : String) (policy : Policy) (language : Language)
    (content : String) :
    (findings (withMarker marker policy) language content).map Finding.about =
      (findings policy language content).map Finding.about := by
  have assigned (a : Assignment) :
      (assignmentFindings (withMarker marker policy) a).map Finding.about =
        (assignmentFindings policy a).map Finding.about := by
    have same : isAcceptedValue (withMarker marker policy) a.value =
      isAcceptedValue policy a.value := rfl
    simp only [assignmentFindings_eq, same]
    split <;> rfl
  cases language with
  | bicep => rfl
  | terraform =>
    simp only [findings, List.map_append, List.map_flatMap, assigned]
    rfl

/-- A literal name is reported, in the order of the assignments, exactly when the naming check
fails on it for every type of resource. Rule sets that differ in the storage marker alone lead to
findings of the same kinds about the same subjects. -/
theorem reported_iff_refused_everywhere (storage : policy.rules.naming.storageTypes ≠ []) :
    (∀ content, (findings policy .terraform content).filter (·.kind = .nameValue) =
      ((assignments content).filter fun a => RefusedEverywhere policy a.value).map
        fun a => ⟨.nameValue, a.target, valueMessage policy a⟩) ∧
    (∀ (table : Text.PropertyTable) (rules : RuleSet) (marker : String) (language : Language)
      (content : String), (Policy.ofRules table (rules.withMarker marker)).map
          (fun p => (findings p language content).map Finding.about) =
        (Policy.ofRules table rules).map fun p =>
          (findings p language content).map Finding.about) := by
  constructor
  · intro content
    rw [nameValue_findings, ← flatMap_if]
    exact List.flatMap_congr fun a _ => assignmentFindings_refused storage a
  · intro table rules marker language content
    rw [ofRules_withMarker]
    cases Policy.ofRules table rules with
    | error field => rfl
    | ok p => exact congrArg Except.ok (findings_withMarker marker p language content)

/-- The first value follows no pattern. The second looks like the name of a storage account. -/
theorem standard_reports_sql_name :
    (findings .standard .terraform "sql_name = \"Main DB\"\nsku_name = \"standard\"\n").filter
        (·.kind = .nameValue) =
      [⟨.nameValue, "sql_name",
        "Resource name 'Main DB' should follow pattern: project-service-environment-suffix"⟩] := by
  have storage : Policy.standard.rules.naming.storageTypes ≠ [] := by decide +kernel
  rw [(reported_iff_refused_everywhere storage).1]
  decide +kernel

end Audit.Naming
end InfraLint
