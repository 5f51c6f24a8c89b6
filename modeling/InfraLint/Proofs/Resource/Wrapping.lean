import InfraLint.Proofs.Resource.Interpolation

/-!
Wrapped values in the checks of resources. Hosts put a single value into a list of one, for some
attributes and not for others; no built-in check can tell the two apart, for an attribute as a
whole, for the project among its tags or for the days of its policy for backups.
-/
namespace InfraLint

inductive Json.Wraps : Json → Json → Prop where
  | kept {value : Json} : Wraps value value
  | wrapped {value : Json} (bare : ∀ item, value ≠ .array [item]) : Wraps value (.array [value])

def innerKey? : String → Option String
  | "tags" => some "Project"
  | "short_term_retention_policy" => some "retention_days"
  | _ => none

/-- Two objects that differ by the wrapping of one entry at most. -/
structure Members.WrapsAt (key : String) (ms ns : Members Json) : Prop where
  here : Option.Rel Json.Wraps (ms.get? key) (ns.get? key)
  elsewhere : ∀ k ≠ key, ns.get? k = ms.get? k

/- What may become of the value of an attribute. Where an entry is wrapped too, the object that
   holds it may be in a list of one before, afterwards, or both. -/
inductive Rewrapped (key : String) : Json → Json → Prop where
  | whole {value value' : Json} (wraps : value.Wraps value') : Rewrapped key value value'
  | entry {inner : String} {value value' : Json} {ms ns : Members Json}
      (looksUp : innerKey? key = some inner) (before : value.unwrapped = .object ms)
      (after : value'.unwrapped = .object ns) (wraps : Members.WrapsAt inner ms ns) :
      Rewrapped key value value'

def judgedKeys : List String :=
  ["name", "tags", "short_term_retention_policy", "account_tier", "account_replication_type",
    "enable_https_traffic_only", "soft_delete_retention_days", "sku_name"]

/-- The same attributes among the given ones, with values that may be wrapped. -/
def Attributes.RewrappedOn (keys : List String) (as bs : Attributes) : Prop :=
  ∀ key ∈ keys, Option.Rel (Rewrapped key) (as.members.get? key) (bs.members.get? key)

theorem unwrapped_wraps {value value' : Json} (wraps : value.Wraps value') :
    value'.unwrapped = value.unwrapped := by
  cases wraps with
  | kept => rfl
  | wrapped bare =>
    have itself : value.unwrapped = value := by
      unfold Json.unwrapped
      split
      · rename_i item
        exact absurd rfl (bare item)
      · rfl
    exact itself.symm

theorem rel_cases {related : Json → Json → Prop} {found found' : Option Json}
    (both : Option.Rel related found found') :
    (found = none ∧ found' = none) ∨
      ∃ value value', found = some value ∧ found' = some value' ∧ related value value' := by
  cases both with
  | none => exact Or.inl ⟨rfl, rfl⟩
  | some pair => exact Or.inr ⟨_, _, rfl, rfl, pair⟩

theorem ofJson_wraps {value value' : Json} (wraps : value.Wraps value') :
    Quantity.ofJson value' = Quantity.ofJson value := by
  simp only [Quantity.ofJson, unwrapped_wraps wraps]

theorem Members.WrapsAt.contains {key : String} {ms ns : Members Json}
    (wraps : WrapsAt key ms ns) (k : String) : ns.contains k = ms.contains k := by
  by_cases same : k = key
  · subst same
    rcases rel_cases wraps.here with ⟨before, after⟩ | ⟨_, _, before, after, _⟩
    · simp only [Members.contains, before, after]
    · simp only [Members.contains, before, after, Option.isSome_some]
  · simp only [Members.contains, wraps.elsewhere k same]

section Lookup

variable {key inner : String} {as bs : Attributes}

theorem get?_rewrapped_plain
    (related : Option.Rel (Rewrapped key) (as.members.get? key) (bs.members.get? key))
    (plain : innerKey? key = none) :
    as.get? key = bs.get? key := by
  unfold Attributes.get?
  rcases rel_cases related with ⟨before, after⟩ | ⟨value, value', before, after, rewrapped⟩
  · rw [before, after]
  · cases rewrapped with
    | whole wraps => rw [before, after, Option.map_some, Option.map_some, unwrapped_wraps wraps]
    | entry looksUp => simp [plain] at looksUp

theorem get?_rewrapped_inner
    (related : Option.Rel (Rewrapped key) (as.members.get? key) (bs.members.get? key))
    (looksUp : innerKey? key = some inner) :
    as.get? key = bs.get? key ∨
      ∃ ms ns, as.get? key = some (.object ms) ∧ bs.get? key = some (.object ns) ∧
        Members.WrapsAt inner ms ns := by
  unfold Attributes.get?
  rcases rel_cases related with ⟨before, after⟩ | ⟨value, value', before, after, rewrapped⟩
  · exact Or.inl (by rw [before, after])
  · rw [before, after, Option.map_some, Option.map_some]
    cases rewrapped with
    | whole wraps => exact Or.inl (by rw [unwrapped_wraps wraps])
    | @entry inner' _ _ ms ns looksUp' object object' wraps =>
      obtain rfl : inner = inner' := by simpa [looksUp] using looksUp'
      exact Or.inr ⟨ms, ns, by rw [object], by rw [object'], wraps⟩

end Lookup

namespace Requirement

variable {policy : Policy} (kind : String) {as bs : Attributes}

theorem rewrapped_of_reads {keys : List String} {requirement : Requirement}
    (reads : Reads keys requirement) (plain : ∀ key ∈ keys, innerKey? key = none)
    (judged : ∀ key ∈ keys, key ∈ judgedKeys) (related : as.RewrappedOn judgedKeys bs) :
    requirement policy kind as = requirement policy kind bs :=
  reads policy kind as bs fun key member =>
    get?_rewrapped_plain (related key (judged key member)) (plain key member)

theorem tagsComplete_wraps {rules : RuleSet} {ms ns : Members Json}
    (wraps : Members.WrapsAt "Project" ms ns) : tagsComplete rules ns = tagsComplete rules ms := by
  have required : (fun tag => Members.contains tag ns) = fun tag => Members.contains tag ms :=
    funext wraps.contains
  rcases rel_cases wraps.here with ⟨before, after⟩ | ⟨project, project', before, after, wraps⟩
  · simp only [tagsComplete, required, before, after]
  · simp only [tagsComplete, required, before, after, Option.all_some, unwrapped_wraps wraps]

theorem tags_rewrapped (related : as.RewrappedOn judgedKeys bs) :
    tags policy kind as = tags policy kind bs := by
  unfold tags
  rcases get?_rewrapped_inner (related "tags" (by decide)) rfl with
    same | ⟨ms, ns, before, after, wraps⟩
  · rw [same]
  · simp only [before, after, tagsComplete_wraps wraps]

theorem backup_rewrapped (related : as.RewrappedOn judgedKeys bs) :
    backup policy kind as = backup policy kind bs := by
  unfold backup
  rcases get?_rewrapped_inner (related "short_term_retention_policy" (by decide)) rfl with
    same | ⟨ms, ns, before, after, wraps⟩
  · rw [same]
  · simp only [before, after]
    rcases rel_cases wraps.here with ⟨none, none'⟩ | ⟨days, days', some, some', wraps⟩
    · simp only [none, none']
    · simp only [some, some', ofJson_wraps wraps]

end Requirement

/-- Wrapping is transparent, and attributes that no check looks at change nothing: two resources of
one type whose judged attributes are the same but for wrapping have the same outcomes. -/
theorem builtin_evaluate_rewrapped {as bs : Attributes}
    (related : as.RewrappedOn judgedKeys bs) (policy : Policy) (kind : String) :
    Catalogue.builtin.evaluate policy kind as = Catalogue.builtin.evaluate policy kind bs := by
  apply List.map_congr_left
  intro check applicable
  have builtin : check ∈ Catalogue.builtin := (List.mem_filter.mp applicable).1
  have passes : check.passes policy kind as = check.passes policy kind bs := by
    rcases builtin_cases builtin with rfl | rfl | rfl | rfl | rfl
    · exact Requirement.rewrapped_of_reads kind Requirement.reads_naming (by decide) (by decide)
        related
    · exact Requirement.tags_rewrapped kind related
    · exact Requirement.backup_rewrapped kind related
    · exact Requirement.rewrapped_of_reads kind Requirement.reads_storage (by decide) (by decide)
        related
    · exact Requirement.rewrapped_of_reads kind Requirement.reads_keyVault (by decide) (by decide)
        related
  rw [passes]

/- A database as a plan may write it, and as a host does, which also knows where it is. -/
def writtenDatabase : Attributes :=
  ⟨[("short_term_retention_policy", .object [("retention_days", .int 6)]),
    ("tags", .array [.object [("Environment", .string "dev"), ("Project", .string "Other")]])]⟩

def hostedDatabase : Attributes :=
  ⟨[("location", .string "westeurope"),
    ("short_term_retention_policy", .array [.object [("retention_days", .array [.int 6])]]),
    ("tags", .array [.object [("Environment", .string "dev"),
      ("Project", .array [.string "Other"])]])]⟩

theorem hosted_rewrapped : writtenDatabase.RewrappedOn judgedKeys hostedDatabase := by
  have days : Members.WrapsAt "retention_days" [("retention_days", .int 6)]
      [("retention_days", .array [.int 6])] := by
    constructor
    · exact .some (.wrapped (by simp))
    · intro k other
      simp [Members.get?_cons, Members.get?_nil, other]
  have project : Members.WrapsAt "Project"
      [("Environment", .string "dev"), ("Project", .string "Other")]
      [("Environment", .string "dev"), ("Project", .array [.string "Other"])] := by
    constructor
    · exact .some (.wrapped (by simp))
    · intro k other
      simp [Members.get?_cons, Members.get?_nil, other]
  simp only [Attributes.RewrappedOn, judgedKeys, List.forall_mem_cons]
  refine ⟨.none, .some ?_, .some ?_, .none, .none, .none, .none, .none, List.forall_mem_nil _⟩
  · exact .entry rfl rfl rfl project
  · exact .entry rfl rfl rfl days

theorem hosted_evaluates_alike :
    writtenDatabase.RewrappedOn judgedKeys hostedDatabase ∧
      Catalogue.builtin.evaluate .standard "azurerm_mssql_database" writtenDatabase =
        Catalogue.builtin.evaluate .standard "azurerm_mssql_database" hostedDatabase :=
  ⟨hosted_rewrapped, builtin_evaluate_rewrapped hosted_rewrapped _ _⟩

end InfraLint
