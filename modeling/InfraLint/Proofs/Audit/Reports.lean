import InfraLint.Audit.Report
import Mathlib.Data.List.Forall2

/-!
Audits of lists of files. The files that exist and are in one of the languages are selected, and
an audit succeeds exactly if all of these can be read; then there is one report for each of them,
in the order of the list.
-/
namespace InfraLint.Audit

variable {policy : Policy} {audit : Audit} {tree : Entry} {path : String} {paths : List String}
  {file : FileReport} {report : Report}

def isSelected (tree : Entry) (path : String) : Bool :=
  tree.contains path && (languageOf? path).isSome

def Reported (policy : Policy) (audit : Audit) (tree : Entry) (path : String)
    (file : FileReport) : Prop :=
  ∃ language content, languageOf? path = some language ∧ tree.read path = .ok content ∧
    file = ⟨path,
      audit.findings policy language (Native.shown ((Path.fileName? path).getD "")) content⟩

theorem contains_of_read {content : String} (readable : tree.read path = .ok content) :
    tree.contains path = true := by
  unfold Entry.read at readable
  unfold Entry.contains
  cases found : tree.find path with
  | ok e => rfl
  | error cause => simp [found, bind, Except.bind] at readable

theorem run_cons_passed (passed : isSelected tree path = false) :
    run policy audit tree (path :: paths) = run policy audit tree paths := by
  have skipped : (!tree.contains path || (languageOf? path).isNone) = true := by
    rw [isSelected, Bool.and_eq_false_iff] at passed
    rcases passed with absent | unknown
    · simp [absent]
    · simp [Option.isSome_eq_false_iff.mp unknown]
  rw [run, if_pos skipped]

theorem run_cons_checked (selected : isSelected tree path = true) :
    run policy audit tree (path :: paths) = (do
      let findings ← audit.checkFile policy tree path
      let rest ← run policy audit tree paths
      return ⟨path, findings⟩ :: rest) := by
  have kept : (!tree.contains path || (languageOf? path).isNone) = false := by
    obtain ⟨present, known⟩ := Bool.and_eq_true_iff.mp selected
    rw [present, Option.isNone_eq_false_iff.mpr known]
    rfl
  rw [run, kept]
  rfl

theorem run_cons_selected (selected : isSelected tree path = true) :
    run policy audit tree (path :: paths) = .ok report ↔
      ∃ file rest, Reported policy audit tree path file ∧
        run policy audit tree paths = .ok rest ∧ report = file :: rest := by
  obtain ⟨language, same⟩ := Option.isSome_iff_exists.mp (Bool.and_eq_true_iff.mp selected).2
  rw [run_cons_checked selected]
  simp only [checkFile, same]
  constructor
  · intro done
    cases content : tree.read path with
    | error cause => simp [content, bind, Except.bind] at done
    | ok text =>
      cases behind : run policy audit tree paths with
      | error e => simp [content, behind, bind, Except.bind] at done
      | ok rest =>
        simp only [content, behind, bind, Except.bind, pure, Except.pure, Except.ok.injEq] at done
        exact ⟨_, rest, ⟨language, text, same, content, rfl⟩, rfl, done.symm⟩
  · rintro ⟨file, rest, ⟨other, text, known, content, rfl⟩, behind, rfl⟩
    obtain rfl : language = other := Option.some.inj (same.symm.trans known)
    simp [content, behind, bind, Except.bind, pure, Except.pure]

/-- What an audit reports, if it succeeds: one report for each path that is selected. -/
theorem run_eq_ok : run policy audit tree paths = .ok report ↔
    List.Forall₂ (Reported policy audit tree) (paths.filter (isSelected tree)) report := by
  induction paths generalizing report with
  | nil => simp [run, eq_comm]
  | cons path paths ih =>
    cases selected : isSelected tree path with
    | false => rw [run_cons_passed selected, List.filter_cons_of_neg (by simp [selected]), ih]
    | true =>
      rw [run_cons_selected selected, List.filter_cons_of_pos selected, List.forall₂_cons_left_iff]
      simp only [ih]

theorem paths_of_run (done : run policy audit tree paths = .ok report) :
    report.map (·.path) = paths.filter (isSelected tree) := by
  have same : ∀ selected report, List.Forall₂ (Reported policy audit tree) selected report →
      report.map (·.path) = selected := by
    intro selected report reported
    induction reported with
    | nil => rfl
    | cons first _ ih =>
      obtain ⟨_, _, _, _, rfl⟩ := first
      rw [List.map_cons, ih]
  exact same _ _ (run_eq_ok.mp done)

theorem run_succeeds_iff : (∃ report, run policy audit tree paths = .ok report) ↔
    ∀ path ∈ paths, isSelected tree path = true → ∃ content, tree.read path = .ok content := by
  induction paths with
  | nil => simp [run]
  | cons path paths ih =>
    rw [List.forall_mem_cons]
    cases selected : isSelected tree path with
    | false => simp [run_cons_passed selected, ih]
    | true =>
      simp only [run_cons_selected selected, ← ih]
      constructor
      · rintro ⟨_, _, rest, ⟨_, content, _, readable, _⟩, behind, rfl⟩
        exact ⟨fun _ => ⟨content, readable⟩, rest, behind⟩
      · rintro ⟨readable, rest, behind⟩
        obtain ⟨content, text⟩ := readable trivial
        obtain ⟨language, known⟩ :=
          Option.isSome_iff_exists.mp (Bool.and_eq_true_iff.mp selected).2
        exact ⟨_, _, rest, ⟨language, content, known, text, rfl⟩, behind, rfl⟩

/-- Every path of the list has its report exactly if all of them lead to readable sources. -/
theorem reports_all_iff :
    (∃ report, run policy audit tree paths = .ok report ∧ report.map (·.path) = paths) ↔
      ∀ path ∈ paths, (languageOf? path).isSome = true ∧
        ∃ content, tree.read path = .ok content := by
  constructor
  · rintro ⟨report, done, same⟩ path member
    have all : paths.filter (isSelected tree) = paths := (paths_of_run done).symm.trans same
    have selected := List.filter_eq_self.mp all path member
    exact ⟨(Bool.and_eq_true_iff.mp selected).2,
      run_succeeds_iff.mp ⟨report, done⟩ path member selected⟩
  · intro readable
    have succeeds : ∃ report, run policy audit tree paths = .ok report :=
      run_succeeds_iff.mpr fun path member _ => (readable path member).2
    obtain ⟨report, done⟩ := succeeds
    refine ⟨report, done, ?_⟩
    rw [paths_of_run done, List.filter_eq_self]
    intro path member
    obtain ⟨known, content, text⟩ := readable path member
    exact Bool.and_eq_true_iff.mpr ⟨contains_of_read text, known⟩

end InfraLint.Audit
