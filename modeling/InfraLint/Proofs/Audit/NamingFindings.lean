import InfraLint.Audit.Audit
import InfraLint.Proofs.Audit.NameValues
import InfraLint.Proofs.Source.SearchPatterns

/-!
The report of the naming audit, told from the text alone. Two scans read the text, one after the
other: the first meets the headers, whose names are judged, the second the assignments of literal
texts, whose values are. Bicep texts are read once.
-/
namespace InfraLint.Audit.Naming
open Source Text Pattern

variable {policy : Policy} {language : Language} {content fileName : String} {found : List Finding}

/- What is wrong with the name of a resource, in the order of the report. -/
def nameFaults (policy : Policy) (language : Language) (name : String) : List FindingKind :=
  (if policy.isResourceName language name then [] else [.resourceNaming]) ++
    if name ∈ policy.rules.naming.genericNames then [.genericName] else []

def nameFinding (language : Language) (name : String) (fault : FindingKind) : Finding :=
  let label := noun language ++ " '" ++ name ++ "'"
  ⟨fault, name,
    if fault = .resourceNaming then label ++ " should use " ++ casing language ++ " naming"
    else label ++ " should have a more descriptive name"⟩

/- Nothing excuses the value: it is known from the source, and follows neither pattern. -/
structure Flagged (policy : Policy) (value : String) : Prop where
  literal : ¬ ∃ u v, value.toList = u ++ ['$', '\x7b'] ++ v
  azure : policy.isAzureName value = false
  storage : policy.isStorageName value = false

def valueFinding (policy : Policy) (a : Assignment) : Finding :=
  ⟨.nameValue, a.target, valueMessage policy a⟩

theorem flagged_iff {value : String} :
    Flagged policy value ↔ isAcceptedValue policy value = false := by
  have interpolated : isInterpolated value = true ↔
      ∃ u v, value.toList = u ++ ['$', '\x7b'] ++ v := occurs_iff
  simp only [isAcceptedValue, Bool.or_eq_false_iff]
  rw [← Bool.not_eq_true (isInterpolated value), interpolated]
  constructor
  · rintro ⟨literal, azure, storage⟩
    exact ⟨⟨literal, azure⟩, storage⟩
  · rintro ⟨⟨literal, azure⟩, storage⟩
    exact ⟨literal, azure, storage⟩

instance (policy : Policy) (value : String) : Decidable (Flagged policy value) :=
  decidable_of_iff _ flagged_iff.symm

/- The report that two scans of the text lead to. -/
inductive Reported (policy : Policy) (content : String) : Language → List Finding → Prop where
  | terraform {headers : List Declaration} {assigned : List Assignment}
      (read : Scan (DeclarationStarts .terraform) content.toList headers)
      (reread : Scan AssignmentStarts content.toList assigned) :
      Reported policy content .terraform
        (headers.flatMap (fun d => (nameFaults policy .terraform d.name).map
            (nameFinding .terraform d.name)) ++
          (assigned.filter fun a => Flagged policy a.value).map (valueFinding policy))
  | bicep {headers : List Declaration}
      (read : Scan (DeclarationStarts .bicep) content.toList headers) :
      Reported policy content .bicep
        (headers.flatMap fun d => (nameFaults policy .bicep d.name).map (nameFinding .bicep d.name))

theorem declarationFindings_eq (policy : Policy) (d : Declaration) :
    declarationFindings policy d =
      (nameFaults policy d.language d.name).map (nameFinding d.language d.name) := by
  simp only [declarationFindings, nameFaults, RuleSet.isGenericName, List.contains_iff_mem,
    List.map_append]
  split <;> split <;> rfl

theorem declared_language {d : Declaration} (member : d ∈ declarations language content) :
    d.language = language := by
  have scan := scan_iff_declarations.mpr (rfl : declarations language content = _)
  obtain ⟨t, rest, start⟩ := starts_of_mem scan member
  cases start with
  | terraform _ same => exact same
  | bicep _ same => exact same

theorem declared_findings (policy : Policy) (language : Language) (content : String) :
    (declarations language content).flatMap (declarationFindings policy) =
      (declarations language content).flatMap fun d =>
        (nameFaults policy language d.name).map (nameFinding language d.name) := by
  apply List.flatMap_congr
  intro d member
  rw [declarationFindings_eq, declared_language member]

theorem assigned_findings (policy : Policy) (content : String) :
    (assignments content).flatMap (assignmentFindings policy) =
      ((assignments content).filter fun a => Flagged policy a.value).map (valueFinding policy) := by
  rw [← flatMap_if]
  apply List.flatMap_congr
  intro a _
  by_cases flagged : Flagged policy a.value
  · have refused := flagged_iff.mp flagged
    simp [assignmentFindings_eq, refused, flagged, valueFinding]
  · have accepted := mt flagged_iff.mpr flagged
    simp [assignmentFindings_eq, accepted, flagged]

theorem reported_iff : Reported policy content language found ↔
    Audit.naming.findings policy language fileName content = found := by
  constructor
  · intro reported
    cases reported with
    | terraform read reread =>
      obtain rfl := scan_iff_declarations.mp read
      obtain rfl := scan_iff_assignments.mp reread
      exact congrArg₂ (· ++ ·) (declared_findings _ _ _) (assigned_findings _ _)
    | bicep read =>
      obtain rfl := scan_iff_declarations.mp read
      exact (List.append_nil _).trans (declared_findings _ _ _)
  · rintro rfl
    have read := scan_iff_declarations.mpr (rfl : declarations language content = _)
    cases language with
    | terraform =>
      have reread := scan_iff_assignments.mpr (rfl : assignments content = _)
      have reported : Reported policy content _ _ := .terraform read reread
      rwa [← declared_findings, ← assigned_findings] at reported
    | bicep =>
      have reported : Reported policy content _ _ := .bicep read
      rw [← declared_findings] at reported
      rwa [Audit.findings, findings, List.append_nil]

theorem nameFaults_isNaming {name : String} {fault : FindingKind}
    (member : fault ∈ nameFaults policy language name) : fault.isNaming = true := by
  rcases List.mem_append.mp member with casing | generic
  · split at casing
    · simp at casing
    · obtain rfl := List.mem_singleton.mp casing
      rfl
  · split at generic
    · obtain rfl := List.mem_singleton.mp generic
      rfl
    · simp at generic

theorem reported_isNaming (reported : Reported policy content language found) :
    ∀ f ∈ found, f.kind.isNaming = true := by
  have named {language : Language} {headers : List Declaration} {f : Finding}
      (member : f ∈ headers.flatMap fun d =>
        (nameFaults policy language d.name).map (nameFinding language d.name)) :
      f.kind.isNaming = true := by
    obtain ⟨d, _, member⟩ := List.mem_flatMap.mp member
    obtain ⟨fault, listed, rfl⟩ := List.mem_map.mp member
    exact nameFaults_isNaming listed
  intro f member
  cases reported with
  | terraform =>
    rcases List.mem_append.mp member with header | value
    · exact named header
    · obtain ⟨a, _, rfl⟩ := List.mem_map.mp value
      rfl
  | bicep => exact named member

/-- The naming audit reports what two scans of the text lead to, and nothing else. What the scans
stop for are the places where the patterns can be met, and no pattern leaves a choice there. -/
theorem naming_findings_reported (policy : Policy) (language : Language)
    (fileName content : String) (found : List Finding) :
    (Reported policy content language found ↔
      Audit.naming.findings policy language fileName content = found) ∧
    (Reported policy content language found → ∀ f ∈ found, f.kind.isNaming = true) ∧
    MetBy (headerPattern language) (DeclarationStarts language) ∧
    MetBy assignmentPattern AssignmentStarts :=
  ⟨reported_iff, reported_isNaming, headerPattern_met language, assignmentPattern_met⟩

/- Of the word that repeats the ending all is the variable. The quotes pair up from left to right,
   so what is assigned to the second variable is not read. -/
def doubledName : String := "db_name_name = \"Main DB\ndisk_name = \"Disk 1\""

def doubledFinding : Finding :=
  ⟨.nameValue, "db_name_name", "Resource name 'Main DB\ndisk_name = ' " ++
    "should follow pattern: project-service-environment-suffix"⟩

theorem doubledName_reported :
    Reported .standard doubledName .terraform [doubledFinding] ∧
      ¬ Reported .standard doubledName .terraform [] := by
  have all : Audit.naming.findings .standard .terraform "main.tf" doubledName =
      [doubledFinding] := by decide +kernel
  rw [(naming_findings_reported .standard .terraform "main.tf" doubledName [doubledFinding]).1,
    (naming_findings_reported .standard .terraform "main.tf" doubledName []).1, all]
  exact ⟨rfl, nofun⟩

end InfraLint.Audit.Naming
