import InfraLint.Policy.Document
import InfraLint.Proofs.Yaml.Record

/-!
What a rule set document overrides. The fields of a rule set and of its sections by their keys, and
the rule set that a document gives, told from what it lists alone.
-/
namespace InfraLint.RuleSet
open Yaml

def namingSlots : List (Slot NamingRules) := [
  .mk "generic_names" (.list .text) (·.genericNames) fun v r => { r with genericNames := v },
  .mk "terraform_resource_pattern" .text (·.terraformPattern) fun v r =>
    { r with terraformPattern := v },
  .mk "bicep_resource_pattern" .text (·.bicepPattern) fun v r => { r with bicepPattern := v },
  .mk "azure_name_pattern" .text (·.azurePattern) fun v r => { r with azurePattern := v },
  .mk "storage_name_pattern" .text (·.storagePattern) fun v r => { r with storagePattern := v },
  .mk "storage_marker" .text (·.storageMarker) fun v r => { r with storageMarker := v },
  .mk "storage_resource_types" (.list .text) (·.storageTypes) fun v r =>
    { r with storageTypes := v },
  .mk "require_name" .flag (·.requireName) fun v r => { r with requireName := v }]

def namingShape : RecordShape NamingRules where
  name := "NamingRules"
  default := {}
  fields := namingFields
  slots := namingSlots
  known := by
    simp only [namingSlots, List.forall_mem_cons]
    exact ⟨rfl, rfl, rfl, rfl, rfl, rfl, rfl, rfl, List.forall_mem_nil _⟩
  all := by
    intro key field isField
    unfold namingFields at isField
    split at isField
    all_goals simp [namingSlots] at isField ⊢
  apart := by simp [namingSlots, Slot.Apart]
  ext := by
    intro r r' same
    simp [namingSlots] at same
    cases r
    simp_all

def tagSlots : List (Slot TagRules) := [
  .mk "exempt_resource_types" (.list .text) (·.exemptTypes) fun v r => { r with exemptTypes := v }]

def tagShape : RecordShape TagRules where
  name := "TagRules"
  default := {}
  fields := tagFields
  slots := tagSlots
  known := by
    simp only [tagSlots, List.forall_mem_cons]
    exact ⟨rfl, List.forall_mem_nil _⟩
  all := by
    intro key field isField
    unfold tagFields at isField
    split at isField
    all_goals simp [tagSlots] at isField ⊢
  apart := by simp [tagSlots]
  ext := by
    intro r r' same
    simp [tagSlots] at same
    cases r
    simp_all

def securitySlots : List (Slot SecurityRules) := [
  .mk "min_backup_retention_days" .number (·.minBackupDays) fun v r =>
    { r with minBackupDays := v },
  .mk "storage_account_tier" .text (·.storageTier) fun v r => { r with storageTier := v },
  .mk "storage_replication_types" (.list .text) (·.storageReplications) fun v r =>
    { r with storageReplications := v },
  .mk "min_soft_delete_retention_days" .number (·.minSoftDeleteDays) fun v r =>
    { r with minSoftDeleteDays := v },
  .mk "key_vault_skus" (.list .text) (·.keyVaultSkus) fun v r => { r with keyVaultSkus := v }]

def securityShape : RecordShape SecurityRules where
  name := "SecurityRules"
  default := {}
  fields := securityFields
  slots := securitySlots
  known := by
    simp only [securitySlots, List.forall_mem_cons]
    exact ⟨rfl, rfl, rfl, rfl, rfl, List.forall_mem_nil _⟩
  all := by
    intro key field isField
    unfold securityFields at isField
    split at isField
    all_goals simp [securitySlots] at isField ⊢
  apart := by simp [securitySlots, Slot.Apart]
  ext := by
    intro r r' same
    simp [securitySlots] at same
    cases r
    simp_all

def plainSlots : List (Slot RuleSet) := [
  .mk "version" .text (·.version) fun v r => { r with version := v },
  .mk "required_tags" (.list .text) (·.requiredTags) fun v r => { r with requiredTags := v },
  .mk "expected_project" .text (·.expectedProject) fun v r => { r with expectedProject := v },
  .mk "managed_by_values" (.list .text) (·.managedByValues) fun v r =>
    { r with managedByValues := v },
  .mk "environment_values" (.list .text) (·.environmentValues) fun v r =>
    { r with environmentValues := v }]

/- A section that is listed in part keeps its other defaults. -/
def sectionSlots : List (Slot RuleSet) := [
  .mk "naming" namingShape.shape (·.naming) fun v r => { r with naming := v },
  .mk "tags" tagShape.shape (·.tags) fun v r => { r with tags := v },
  .mk "security" securityShape.shape (·.security) fun v r => { r with security := v }]

def rulesShape : RecordShape RuleSet where
  name := "RuleSet"
  default := {}
  fields := fields
  slots := plainSlots ++ sectionSlots
  known := by
    simp only [plainSlots, sectionSlots, List.forall_mem_append, List.forall_mem_cons]
    exact ⟨⟨rfl, rfl, rfl, rfl, rfl, List.forall_mem_nil _⟩, rfl, rfl, rfl, List.forall_mem_nil _⟩
  all := by
    intro key field isField
    unfold fields at isField
    split at isField
    all_goals simp [plainSlots, sectionSlots] at isField ⊢
  apart := by simp [plainSlots, sectionSlots, Slot.Apart]
  ext := by
    intro r r' same
    simp [plainSlots, sectionSlots] at same
    cases r
    simp_all

/-- What the mapping of a document lists, where all keys are texts. -/
def listing? (text : String) : Option (Anchors × List (String × Node)) := do
  let d ← Document.read? text
  match (← d.root).resolve d.anchors with
  | .mapping _ _ ms => (entriesOf d.anchors ms).map (d.anchors, ·)
  | _ => none

/- No field is listed twice. -/
def Lists (text : String) (anchors : Anchors) (entries : List (String × Node)) : Prop :=
  listing? text = some (anchors, entries) ∧ Once rulesShape.slots entries

/- The same fields are listed with the same values, in the sections too. -/
structure SameRules (anchors anchors' : Anchors) (entries entries' : List (String × Node)) :
    Prop where
  plain : SameListing plainSlots anchors anchors' entries entries'
  naming : Option.Rel (namingShape.Alike anchors anchors')
    (entries.lookup "naming") (entries'.lookup "naming")
  tags : Option.Rel (tagShape.Alike anchors anchors')
    (entries.lookup "tags") (entries'.lookup "tags")
  security : Option.Rel (securityShape.Alike anchors anchors')
    (entries.lookup "security") (entries'.lookup "security")

/- A field is listed with a value of the wrong kind, or a section is no mapping of its fields. -/
inductive Misfits (anchors : Anchors) (entries : List (String × Node)) : Prop where
  | plain (misfit : Misfit plainSlots anchors entries)
  | naming {n : Node} (listed : entries.lookup "naming" = some n)
      (misfits : namingShape.Misfits anchors n)
  | tags {n : Node} (listed : entries.lookup "tags" = some n) (misfits : tagShape.Misfits anchors n)
  | security {n : Node} (listed : entries.lookup "security" = some n)
      (misfits : securityShape.Misfits anchors n)

variable {text : String} {anchors anchors' : Anchors} {entries entries' : List (String × Node)}

/-- The root of such a document is the mapping that lists the entries. -/
theorem ofYaml_eq_ok (lists : Lists text anchors entries) {r : RuleSet} :
    ofYaml text = .ok r ↔ Overrides rulesShape.slots anchors {} entries r := by
  obtain ⟨listed, once⟩ := lists
  obtain ⟨d, document, listed⟩ := Option.bind_eq_some_iff.mp listed
  obtain ⟨root, content, listed⟩ := Option.bind_eq_some_iff.mp listed
  split at listed
  · rename_i mark p ms isMapping
    obtain ⟨_, read, same⟩ := Option.map_eq_some_iff.mp listed
    obtain ⟨rfl, rfl⟩ := Prod.mk.inj same
    have keyed : rulesShape.Keyed d.anchors (.mapping mark p ms) _ := .mapping read once
    have decoded : ofYaml text = .ok r ↔
        Decoder.record "RuleSet" {} fields d.anchors [] (.mapping mark p ms) = .ok r := by
      simp only [ofYaml, Yaml.read, document, content, isMapping]
      cases Decoder.record "RuleSet" {} fields d.anchors [] (.mapping mark p ms) <;> simp
    exact decoded.trans (rulesShape.record_eq_ok.trans (RecordShape.means_keyed keyed))
  · cases listed

theorem ofYaml_eq_error (lists : Lists text anchors entries) :
    (∃ e, ofYaml text = .error e) ↔ Misfit rulesShape.slots anchors entries := by
  have accepted : (∃ r, ofYaml text = .ok r) ↔ ¬ Misfit rulesShape.slots anchors entries := by
    simp only [ofYaml_eq_ok lists]
    exact RecordShape.exists_overrides lists.2
  have refused : (∃ e, ofYaml text = .error e) ↔ ¬ ∃ r, ofYaml text = .ok r := by
    cases ofYaml text <;> simp
  rw [refused, accepted, Classical.not_not]

theorem misfits_iff : Misfits anchors entries ↔ Misfit rulesShape.slots anchors entries := by
  have parts : Misfit rulesShape.slots anchors entries ↔
      Misfit plainSlots anchors entries ∨ Misfit sectionSlots anchors entries := misfit_append
  have sections : Misfit sectionSlots anchors entries ↔
      (∃ n, entries.lookup "naming" = some n ∧ namingShape.Misfits anchors n) ∨
      (∃ n, entries.lookup "tags" = some n ∧ tagShape.Misfits anchors n) ∨
      ∃ n, entries.lookup "security" = some n ∧ securityShape.Misfits anchors n := by
    simp [Misfit, sectionSlots, RecordShape.misfits_iff, RecordShape.shape]
  rw [parts, sections]
  constructor
  · intro misfits
    cases misfits with
    | plain misfit => exact Or.inl misfit
    | naming listed misfits => exact Or.inr (Or.inl ⟨_, listed, misfits⟩)
    | tags listed misfits => exact Or.inr (Or.inr (Or.inl ⟨_, listed, misfits⟩))
    | security listed misfits => exact Or.inr (Or.inr (Or.inr ⟨_, listed, misfits⟩))
  · intro h
    rcases h with misfit | ⟨n, listed, misfits⟩ | ⟨n, listed, misfits⟩ | ⟨n, listed, misfits⟩
    · exact .plain misfit
    · exact .naming listed misfits
    · exact .tags listed misfits
    · exact .security listed misfits

theorem sameListing_of_sameRules (same : SameRules anchors anchors' entries entries') :
    SameListing rulesShape.slots anchors anchors' entries entries' := by
  have ofAlike {σ : Type} {d : RecordShape σ} {here there : Option Node}
      (rel : Option.Rel (d.Alike anchors anchors') here there) :
      Option.Rel (fun n n' => ∀ r, d.Means anchors n r ↔ d.Means anchors' n' r) here there := by
    cases rel with
    | some alike => exact .some alike.means
    | none => exact .none
  have sections : SameListing sectionSlots anchors anchors' entries entries' := by
    simp only [SameListing, sectionSlots, List.forall_mem_cons]
    exact ⟨ofAlike same.naming, ofAlike same.tags, ofAlike same.security, List.forall_mem_nil _⟩
  intro s member
  rcases List.mem_append.mp member with member | member
  · exact same.plain s member
  · exact sections s member

/-- A document overrides what it lists and nothing else. It is refused exactly when a field that it
lists has a value of the wrong kind. What it gives depends neither on the order of its keys nor on
keys that name no field. -/
theorem ofYaml_overrides (lists : Lists text anchors entries) :
    (∀ r, ofYaml text = .ok r ↔ Overrides rulesShape.slots anchors {} entries r) ∧
    ((∃ e, ofYaml text = .error e) ↔ Misfits anchors entries) ∧
    ∀ text' anchors' entries', Lists text' anchors' entries' →
      SameRules anchors anchors' entries entries' →
        ∀ r, ofYaml text = .ok r ↔ ofYaml text' = .ok r := by
  refine ⟨fun r => ofYaml_eq_ok lists, ?_, ?_⟩
  · rw [ofYaml_eq_error lists, misfits_iff]
  · intro text' anchors' entries' lists' same r
    rw [ofYaml_eq_ok lists, ofYaml_eq_ok lists']
    exact overrides_same (sameListing_of_sameRules same)

/- A section is listed in part, and two keys name no field. -/
def listedRules : String :=
  "owner: a\nsecurity:\n  tier: b\n  min_backup_retention_days: 14\n"

theorem lists_listedRules : ∃ anchors entries, Lists listedRules anchors entries := by
  have keys : (listing? listedRules).map (fun listed => listed.2.map Prod.fst) =
      some ["owner", "security"] := by decide +kernel
  obtain ⟨⟨anchors, entries⟩, listed, same⟩ := Option.map_eq_some_iff.mp keys
  refine ⟨anchors, entries, listed, once_of_nodup ?_⟩
  rw [same]
  decide

theorem listedRules_overrides : ∃ anchors entries, Lists listedRules anchors entries ∧
    Overrides rulesShape.slots anchors {} entries { security := { minBackupDays := 14 } } := by
  obtain ⟨anchors, entries, lists⟩ := lists_listedRules
  have read : (ofYaml listedRules).toOption = some { security := { minBackupDays := 14 } } := by
    decide +kernel
  refine ⟨anchors, entries, lists, ((ofYaml_overrides lists).1 _).mp ?_⟩
  cases given : ofYaml listedRules with
  | error e => simp [given, Except.toOption] at read
  | ok r => simpa [given, Except.toOption] using read

end InfraLint.RuleSet
