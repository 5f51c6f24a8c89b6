import InfraLint.Proofs.Audit.Reports
import InfraLint.Proofs.Command.RulesOutput
import InfraLint.Proofs.Settings
import InfraLint.Proofs.Tree.Walk

/-!
Runs that cannot be done, and what runs find that can. A judging run fails exactly if a setting is
given twice, its rules cannot be used, or one of the things it has to list or to read cannot be
listed or read.
-/
namespace InfraLint.Command

variable {table : Text.PropertyTable} {tree : Entry} {files : Files} {rules : Option String}
  {policy : Policy} {action : Action} {i : Invocation} {listed : List String} {base : String}

def Action.judges : Action → Bool
  | .audit .. => true
  | .evaluate .. => true
  | .checks => false
  | .rules => false

inductive UnusableRules (table : Text.PropertyTable) (tree : Entry) : Option String → Prop where
  | unreadable {path : String} {cause : PathError} (file : tree.read path = .error cause) :
      UnusableRules table tree (some path)
  | notYaml {path text : String} {error : Yaml.Error} (file : tree.read path = .ok text)
      (refused : RuleSet.ofYaml text = .error error) : UnusableRules table tree (some path)
  | badPattern {rules : Option String} {r : RuleSet} {field : String}
      (loaded : rules.elim (.ok {}) (RuleSet.ofPath tree) = .ok r)
      (refused : Policy.ofRules table r = .error field) : UnusableRules table tree rules

/-- Without a list of files, discovery may meet a directory that cannot be listed. -/
inductive Undoable (files : Files) : Action → Prop where
  | discovery {audit : Audit} {base : String} (blocked : Blocked base files) :
      Undoable files (.audit audit [] base)
  | source {audit : Audit} {listed paths : List String} {base path : String} {cause : PathError}
      (found : sources files listed base = .ok paths) (member : path ∈ paths)
      (selected : Audit.isSelected files.tree path = true)
      (file : files.tree.read path = .error cause) : Undoable files (.audit audit listed base)
  | unknownCheck {plan id : String} {checks : List String} (asked : id ∈ checks)
      (unknown : ∀ check ∈ Catalogue.builtin, check.id ≠ id) :
      Undoable files (.evaluate plan checks)
  | planUnreadable {plan : String} {checks : List String} {cause : PathError}
      (file : files.tree.read plan = .error cause) : Undoable files (.evaluate plan checks)
  | planNotJson {plan text : String} {checks : List String} {error : Json.Error}
      (file : files.tree.read plan = .ok text) (refused : Plan.read text = .error error) :
      Undoable files (.evaluate plan checks)

inductive Hindered (table : Text.PropertyTable) (environment : List (String × String))
    (files : Files) (i : Invocation) : Prop where
  | settings (twice : Settings.Twice environment)
  | rules (unusable : UnusableRules table files.tree i.rules)
  | action (undoable : Undoable files i.action)

inductive Finds (policy : Policy) (files : Files) : Action → Json → Prop where
  | audit {audit : Audit} {listed paths : List String} {base : String} {report : Report}
      (found : sources files listed base = .ok paths)
      (done : audit.run policy files.tree paths = .ok report) :
      Finds policy files (.audit audit listed base) report.toJson
  | evaluate {path : String} {checks : List String} {plan : Plan}
      (known : ∀ id ∈ checks, ∃ check ∈ Catalogue.builtin, check.id = id)
      (loaded : Plan.ofPath files.tree path = .ok plan) :
      Finds policy files (.evaluate path checks)
        (.array ((plan.evaluate Catalogue.builtin policy checks).map resourceJson))

theorem usable_iff :
    (∃ policy, policyFor table tree rules = .ok policy) ↔ ¬ UnusableRules table tree rules := by
  constructor
  · rintro ⟨policy, inUse⟩ unusable
    obtain ⟨r, loaded, made⟩ := policyFor_eq_ok.mp inUse
    cases unusable with
    | unreadable file =>
      obtain ⟨text, read, _⟩ := ofPath_eq_ok.mp loaded
      cases file.symm.trans read
    | notYaml file refused =>
      obtain ⟨text, read, accepted⟩ := ofPath_eq_ok.mp loaded
      cases file.symm.trans read
      cases refused.symm.trans accepted
    | badPattern other refused =>
      cases other.symm.trans loaded
      cases refused.symm.trans made
  · intro usable
    cases loaded : rules.elim (.ok {}) (RuleSet.ofPath tree) with
    | ok r =>
      cases made : Policy.ofRules table r with
      | ok policy => exact ⟨policy, policyFor_eq_ok.mpr ⟨r, loaded, made⟩⟩
      | error field => exact absurd (.badPattern loaded made) usable
    | error e =>
      cases rules with
      | none => cases loaded
      | some path =>
        cases file : tree.read path with
        | error cause => exact absurd (.unreadable file) usable
        | ok text =>
          cases read : RuleSet.ofYaml text with
          | error error => exact absurd (.notYaml file read) usable
          | ok r => cases loaded.symm.trans (ofPath_eq_ok.mpr ⟨text, file, read⟩)

theorem planOfPath_eq_ok {path : String} {plan : Plan} : Plan.ofPath tree path = .ok plan ↔
    ∃ text, tree.read path = .ok text ∧ Plan.read text = .ok plan := by
  unfold Plan.ofPath
  cases tree.read path with
  | error cause => simp
  | ok text =>
    simp only [Except.ok.injEq, exists_eq_left']
    cases Plan.read text <;> simp

theorem sources_listed (some : listed ≠ []) : sources files listed base = .ok listed := by
  rw [sources, List.isEmpty_eq_false_iff.mpr some]
  rfl

theorem sources_succeeds_iff : (∃ paths, sources files listed base = .ok paths) ↔
    ¬ (listed = [] ∧ Blocked base files) := by
  by_cases none : listed = []
  · subst none
    simp [sources, discover_succeeds_iff]
  · simp [sources_listed none, none]

theorem finds_iff (policy : Policy) (judges : action.judges = true) :
    (∃ data, Finds policy files action data) ↔ ¬ Undoable files action := by
  constructor
  · rintro ⟨data, finds⟩ undoable
    cases finds with
    | audit found done =>
      cases undoable with
      | discovery blocked =>
        exact sources_succeeds_iff.mp ⟨_, found⟩ ⟨rfl, blocked⟩
      | source listed member selected file =>
        cases listed.symm.trans found
        obtain ⟨content, read⟩ := Audit.run_succeeds_iff.mp ⟨_, done⟩ _ member selected
        cases file.symm.trans read
    | evaluate known loaded =>
      obtain ⟨text, read, accepted⟩ := planOfPath_eq_ok.mp loaded
      cases undoable with
      | unknownCheck asked unknown =>
        obtain ⟨check, member, same⟩ := known _ asked
        exact unknown check member same
      | planUnreadable file => cases file.symm.trans read
      | planNotJson file refused =>
        cases file.symm.trans read
        cases refused.symm.trans accepted
  · intro doable
    cases action with
    | audit audit listed base =>
      have free : ¬ (listed = [] ∧ Blocked base files) := by
        rintro ⟨rfl, blocked⟩
        exact doable (.discovery blocked)
      obtain ⟨paths, found⟩ := sources_succeeds_iff.mpr free
      have succeeds : ∃ report, audit.run policy files.tree paths = .ok report := by
        refine Audit.run_succeeds_iff.mpr fun path member selected => ?_
        cases file : files.tree.read path with
        | ok content => exact ⟨content, rfl⟩
        | error cause => exact absurd (.source found member selected file) doable
      obtain ⟨report, done⟩ := succeeds
      exact ⟨_, .audit found done⟩
    | evaluate path checks =>
      have known : ∀ id ∈ checks, ∃ check ∈ Catalogue.builtin, check.id = id := by
        intro id asked
        by_contra unknown
        push Not at unknown
        exact doable (.unknownCheck asked unknown)
      cases file : files.tree.read path with
      | error cause => exact absurd (.planUnreadable file) doable
      | ok text =>
        cases read : Plan.read text with
        | error error => exact absurd (.planNotJson file read) doable
        | ok plan => exact ⟨_, .evaluate known (planOfPath_eq_ok.mpr ⟨text, file, read⟩)⟩
    | checks => cases judges
    | rules => cases judges

/-! Paths that are not UTF-8 -/

/-- A source that is reported on has a path that cannot be written as JSON. -/
inductive Unwritable (files : Files) : Action → Prop where
  | source {audit : Audit} {listed paths : List String} {base path : String}
      (found : sources files listed base = .ok paths) (member : path ∈ paths)
      (selected : Audit.isSelected files.tree path = true) (bytes : Native.isUtf8 path = false) :
      Unwritable files (.audit audit listed base)

theorem isWritable_iff {audit : Audit} {paths : List String} {report : Report}
    (found : sources files listed base = .ok paths)
    (done : audit.run policy files.tree paths = .ok report) :
    report.isWritable = true ↔ ¬ Unwritable files (.audit audit listed base) := by
  have written : report.isWritable = true ↔
      ∀ path ∈ paths.filter (Audit.isSelected files.tree), Native.isUtf8 path = true := by
    rw [← Audit.paths_of_run done, Report.isWritable, List.all_eq_true, List.forall_mem_map]
  rw [written]
  constructor
  · rintro utf8 ⟨found', member, selected, bytes⟩
    cases found.symm.trans found'
    simp [utf8 _ (List.mem_filter.mpr ⟨member, selected⟩)] at bytes
  · intro free path member
    obtain ⟨member, selected⟩ := List.mem_filter.mp member
    by_contra bytes
    exact free (.source found member selected (by simpa using bytes))

end InfraLint.Command
