import InfraLint.Proofs.Audit.NamingFindings
import InfraLint.Proofs.Pattern.Whole
import InfraLint.Proofs.Policy.Standard
import Mathlib.Tactic.MkIffOfInductiveProp

/-!
The names that the default rules accept, told without patterns: Azure names have four parts, storage
names are short and have no hyphen, so no text is both, and the identifiers of each language are of
ASCII characters only. All names that the rules call generic have the casing of either language, so
a report never asks for two things of one name.
-/
namespace InfraLint.Audit.Naming
open Source Pattern

/-- Four parts with hyphens between them, each of ASCII letters and digits. -/
@[mk_iff]
structure AzureName (name : String) : Prop where
  four : (name.toList.splitOn '-').length = 4
  parts : ∀ part ∈ name.toList.splitOn '-', part ≠ [] ∧ ∀ c ∈ part, c.isAlphanum = true

@[mk_iff]
structure StorageName (name : String) : Prop where
  least : 3 ≤ name.length
  most : name.length ≤ 24
  plain : ∀ c ∈ name.toList, c.isLower = true ∨ c.isDigit = true

@[mk_iff]
structure SnakeName (name : String) : Prop where
  given : name ≠ ""
  plain : ∀ c ∈ name.toList, c.isLower = true ∨ c.isDigit = true ∨ c = '_'

@[mk_iff]
structure CamelName (name : String) : Prop where
  first : ∃ c ∈ name.toList.head?, c.isLower = true
  rest : ∀ c ∈ name.toList.tail, c.isAlphanum = true

variable {name : String} {c : Char}

/-! The classes -/

def lowerOrDigit : CharClass := .ofRanges [('a', 'z'), ('0', '9')]

def snakeCase : CharClass := .ofRanges [('a', 'z'), ('0', '9'), ('_', '_')]

def letterOrDigit : CharClass := .ofRanges [('a', 'z'), ('A', 'Z'), ('0', '9')]

theorem range_lower (c : Char) :
    (CharClass.range 'a'.toNat 'z'.toNat).contains c = c.isLower := rfl

theorem range_upper (c : Char) :
    (CharClass.range 'A'.toNat 'Z'.toNat).contains c = c.isUpper :=
  (Bool.decide_and _ _).symm

theorem range_digit (c : Char) :
    (CharClass.range '0'.toNat '9'.toNat).contains c = c.isDigit := rfl

theorem contains_lowerOrDigit :
    lowerOrDigit.contains c = true ↔ c.isLower = true ∨ c.isDigit = true := by
  simp only [lowerOrDigit, contains_ofRanges, List.any_cons, List.any_nil, Bool.or_false,
    Bool.or_eq_true, range_lower, range_digit]

theorem contains_snakeCase :
    snakeCase.contains c = true ↔ c.isLower = true ∨ c.isDigit = true ∨ c = '_' := by
  have underscore : (CharClass.range '_'.toNat '_'.toNat).contains c = true ↔ c = '_' :=
    contains_one
  simp only [snakeCase, contains_ofRanges, List.any_cons, List.any_nil, Bool.or_false,
    Bool.or_eq_true, range_lower, range_digit, underscore]

theorem contains_letterOrDigit : letterOrDigit.contains c = c.isAlphanum := by
  simp only [letterOrDigit, contains_ofRanges, List.any_cons, List.any_nil, Bool.or_false,
    range_lower, range_upper, range_digit]
  rw [← Bool.or_assoc, Bool.or_comm c.isLower]
  rfl

/-! The patterns -/

theorem standard_patterns :
    Policy.standard.azureName = whole (separatedRuns letterOrDigit '-' 4) ∧
    Policy.standard.storageName = whole [(chars lowerOrDigit).repeated 3 (some 24)] ∧
    Policy.standard.terraformName = whole [runOf snakeCase] ∧
    Policy.standard.bicepName =
      whole [.chars (.range 'a'.toNat 'z'.toNat), .star (.chars letterOrDigit)] := by
  decide +kernel

theorem isAzureName_iff : Policy.standard.isAzureName name = true ↔ AzureName name := by
  obtain ⟨azure, -, -, -⟩ := standard_patterns
  have apart : letterOrDigit.contains '-' = false := by decide
  rw [Policy.isAzureName, azure, isFoundIn_whole, takes_separatedRuns apart, azureName_iff]
  simp only [contains_letterOrDigit]

theorem isStorageName_iff : Policy.standard.isStorageName name = true ↔ StorageName name := by
  obtain ⟨-, storage, -, -⟩ := standard_patterns
  rw [Policy.isStorageName, storage, isFoundIn_whole, takes_sequence_one, takes_repeated_chars,
    storageName_iff]
  simp only [contains_lowerOrDigit, Option.mem_some, forall_eq', String.length_toList]
  rfl

theorem isResourceName_terraform_iff :
    Policy.standard.isResourceName .terraform name = true ↔ SnakeName name := by
  obtain ⟨-, -, terraform, -⟩ := standard_patterns
  rw [Policy.isResourceName, terraform, isFoundIn_whole, takes_sequence_one, takes_runOf,
    snakeName_iff]
  simp only [contains_snakeCase, ne_eq, String.toList_eq_nil_iff]

theorem isResourceName_bicep_iff :
    Policy.standard.isResourceName .bicep name = true ↔ CamelName name := by
  obtain ⟨-, -, -, bicep⟩ := standard_patterns
  rw [Policy.isResourceName, bicep, isFoundIn_whole, takes_sequence_cons, camelName_iff]
  simp only [Followed, takes_sequence_one, takes_chars, takes_star_chars, range_lower,
    contains_letterOrDigit]
  constructor
  · rintro ⟨_, u, split, ⟨c, rfl, small⟩, plain⟩
    rw [split]
    exact ⟨⟨c, rfl, small⟩, plain⟩
  · rintro ⟨⟨c, first, small⟩, plain⟩
    obtain ⟨u, split⟩ := List.head?_eq_some_iff.mp first
    rw [split] at plain
    exact ⟨[c], u, split, ⟨c, rfl, small⟩, plain⟩

theorem not_both_names : ¬ (AzureName name ∧ StorageName name) := by
  rintro ⟨azure, storage⟩
  by_cases hyphen : '-' ∈ name.toList
  · have plain := storage.plain '-' hyphen
    simp at plain
  · have four := azure.four
    rw [List.splitOn_eq_singleton hyphen] at four
    simp at four

/-! The report -/

variable {policy : Policy} {language : Language} {content : String} {f : Finding}

theorem casing_mem_nameFaults :
    .resourceNaming ∈ nameFaults policy language name ↔
      policy.isResourceName language name = false := by
  by_cases named : policy.isResourceName language name = true
  · simp [nameFaults, named]
  · simp [nameFaults, named]

theorem generic_mem_nameFaults :
    .genericName ∈ nameFaults policy language name ↔
      name ∈ policy.rules.naming.genericNames := by
  by_cases named : policy.isResourceName language name = true
  · simp [nameFaults, named]
  · simp [nameFaults, named]

theorem generic_isResourceName (generic : name ∈ Policy.standard.rules.naming.genericNames) :
    Policy.standard.isResourceName language name = true := by
  have all : Policy.standard.rules.naming.genericNames.all
      (Policy.standard.isResourceName language) = true := by
    cases language <;> decide +kernel
  exact List.all_eq_true.mp all name generic

theorem not_both_faults :
    ¬ (.resourceNaming ∈ nameFaults .standard language name ∧
      .genericName ∈ nameFaults .standard language name) := by
  rw [casing_mem_nameFaults, generic_mem_nameFaults]
  rintro ⟨misnamed, generic⟩
  rw [generic_isResourceName generic] at misnamed
  contradiction

theorem fault_of_declared {d : Declaration} (member : f ∈ declarationFindings policy d) :
    f.kind ∈ nameFaults policy d.language d.name ∧ f.subject = d.name := by
  rw [declarationFindings_eq] at member
  obtain ⟨fault, listed, rfl⟩ := List.mem_map.mp member
  exact ⟨listed, rfl⟩

/- What is not about a value is about a name of the language. -/
theorem fault_of_finding (member : f ∈ findings policy language content)
    (named : f.kind ≠ .nameValue) : f.kind ∈ nameFaults policy language f.subject := by
  rcases List.mem_append.mp member with declared | assigned
  · obtain ⟨d, listed, found⟩ := List.mem_flatMap.mp declared
    obtain ⟨fault, same⟩ := fault_of_declared found
    rwa [same, ← declared_language listed]
  · cases language with
    | terraform =>
      obtain ⟨a, _, found⟩ := List.mem_flatMap.mp assigned
      exact absurd (assignmentFindings_kind found) named
    | bicep => cases assigned

/-- The default patterns can be read, and they accept the names described above and no others. No
name is accepted both for Azure and for a storage account. No declaration is reported both for its
casing and as generic, and in the report of a text no name is. -/
theorem standard_names_recognised :
    (∀ table, Policy.ofRules table {} = .ok .standard) ∧
    (∀ name, Policy.standard.isAzureName name = true ↔ AzureName name) ∧
    (∀ name, Policy.standard.isStorageName name = true ↔ StorageName name) ∧
    (∀ name, Policy.standard.isResourceName .terraform name = true ↔ SnakeName name) ∧
    (∀ name, Policy.standard.isResourceName .bicep name = true ↔ CamelName name) ∧
    (∀ name, ¬ (Policy.standard.isAzureName name = true ∧
      Policy.standard.isStorageName name = true)) ∧
    (∀ d, ¬ ((∃ f ∈ declarationFindings .standard d, f.kind = .resourceNaming) ∧
      ∃ g ∈ declarationFindings .standard d, g.kind = .genericName)) ∧
    ∀ language content, ¬ ∃ f ∈ findings .standard language content,
      ∃ g ∈ findings .standard language content,
        f.kind = .resourceNaming ∧ g.kind = .genericName ∧ f.subject = g.subject := by
  refine ⟨Policy.ofRules_default, fun _ => isAzureName_iff, fun _ => isStorageName_iff,
    fun _ => isResourceName_terraform_iff, fun _ => isResourceName_bicep_iff, ?_, ?_, ?_⟩
  · intro name
    rw [isAzureName_iff, isStorageName_iff]
    exact not_both_names
  · rintro d ⟨⟨f, found, casing⟩, g, found', generic⟩
    have misnamed := (fault_of_declared found).1
    have empty := (fault_of_declared found').1
    rw [casing] at misnamed
    rw [generic] at empty
    exact not_both_faults ⟨misnamed, empty⟩
  · rintro language content ⟨f, found, g, found', casing, generic, same⟩
    have misnamed := fault_of_finding found (by simp [casing])
    have empty := fault_of_finding found' (by simp [generic])
    rw [casing, same] at misnamed
    rw [generic] at empty
    exact not_both_faults ⟨misnamed, empty⟩

/- A line feed at the end is part of no name, and neither is a letter outside ASCII. -/
theorem orders_recognised :
    StorageName "orders01" ∧ ¬ StorageName "orders01\n" ∧
      AzureName "bidone-api-dev-001" ∧ ¬ AzureName "bidoné-api-dev-001" ∧
      SnakeName "main_vault" ∧ ¬ CamelName "main_vault" := by
  obtain ⟨-, azure, storage, snake, camel, -⟩ := standard_names_recognised
  simp only [← azure, ← storage, ← snake, ← camel]
  decide +kernel

end InfraLint.Audit.Naming
