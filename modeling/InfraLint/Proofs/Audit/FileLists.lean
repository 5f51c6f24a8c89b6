import InfraLint.Proofs.Audit.Reports
import Mathlib

/-!
Audits of arbitrary lists of paths. What counts is which of the paths lead to an entry with the
extension of a language: the audit reports each of them as often as it stands in the list, or
names the first one that is no text. The other paths may stand anywhere.
-/
namespace InfraLint.Audit
open Source

variable {policy : Policy} {audit : Audit} {tree : Entry} {path : String} {paths : List String}
  {file : FileReport} {report : Report}

def IsListed (tree : Entry) (path : String) : Prop :=
  (∃ e, tree.find path = .ok e) ∧
    ∃ language : Language, Path.extension? path = some language.extension

def IsText (tree : Entry) (path : String) : Prop :=
  ∃ content, tree.find path = .ok (.file (some content))

/-- What is reported for a path: the findings for the text of the file, by its extension and its
name as it is shown. -/
inductive ReportOf (policy : Policy) (audit : Audit) (tree : Entry) :
    String → FileReport → Prop where
  | text {path name content : String} {language : Language}
      (extension : Path.extension? path = some language.extension)
      (called : Path.fileName? path = some name)
      (leads : tree.find path = .ok (.file (some content))) :
      ReportOf policy audit tree path
        ⟨path, audit.findings policy language (Native.shown name) content⟩

inductive NoText (tree : Entry) (path : String) : PathError → Prop where
  | directory {entries : List (String × Entry)}
      (leads : tree.find path = .ok (.directory entries)) : NoText tree path .isDirectory
  | bytes (leads : tree.find path = .ok (.file none)) : NoText tree path .notUtf8

theorem languageOf?_eq_some {language : Language} : languageOf? path = some language ↔
    Path.extension? path = some language.extension := by
  have known (extension : String) : Language.ofExtension? extension = some language ↔
      extension = language.extension := by
    simp only [Language.ofExtension?, List.find?_cons, List.find?_nil]
    cases language <;> grind [Language.extension]
  rw [languageOf?, Option.bind_eq_some_iff]
  constructor
  · rintro ⟨extension, taken, same⟩
    rw [taken, (known extension).mp same]
  · intro taken
    exact ⟨_, taken, (known _).mpr rfl⟩

theorem isSelected_iff : isSelected tree path = true ↔ IsListed tree path := by
  have present : tree.contains path = true ↔ ∃ e, tree.find path = .ok e := by
    unfold Entry.contains
    cases tree.find path <;> simp
  simp only [isSelected, Bool.and_eq_true_iff, present, Option.isSome_iff_exists,
    languageOf?_eq_some, IsListed]

instance : DecidablePred (IsListed tree) :=
  fun _ => decidable_of_iff _ isSelected_iff

theorem read_eq_ok {content : String} :
    tree.read path = .ok content ↔ tree.find path = .ok (.file (some content)) := by
  unfold Entry.read
  cases tree.find path with
  | error cause => simp [bind, Except.bind]
  | ok e =>
    cases e with
    | file text => cases text <;> simp [bind, Except.bind]
    | directory entries => simp [bind, Except.bind]

theorem read_eq_error {cause : PathError} (present : ∃ e, tree.find path = .ok e) :
    tree.read path = .error cause ↔ NoText tree path cause := by
  obtain ⟨e, leads⟩ := present
  have reason : NoText tree path cause ↔
      (∃ entries, e = .directory entries ∧ cause = .isDirectory) ∨
        e = .file none ∧ cause = .notUtf8 := by
    constructor
    · rintro (leads' | leads')
      · exact Or.inl ⟨_, Except.ok.inj (leads.symm.trans leads'), rfl⟩
      · exact Or.inr ⟨Except.ok.inj (leads.symm.trans leads'), rfl⟩
    · rintro (⟨entries, rfl, rfl⟩ | ⟨rfl, rfl⟩)
      · exact .directory leads
      · exact .bytes leads
  rw [reason, Entry.read, leads]
  cases e with
  | file text => cases text <;> simp [bind, Except.bind, eq_comm]
  | directory entries => simp [bind, Except.bind, eq_comm]

theorem reported_iff : Reported policy audit tree path file ↔
    ReportOf policy audit tree path file := by
  constructor
  · rintro ⟨language, content, known, text, rfl⟩
    have extension := languageOf?_eq_some.mp known
    obtain ⟨name, called, _⟩ := Option.bind_eq_some_iff.mp extension
    rw [called, Option.getD_some]
    exact .text extension called (read_eq_ok.mp text)
  · rintro ⟨extension, called, leads⟩
    refine ⟨_, _, languageOf?_eq_some.mpr extension, read_eq_ok.mpr leads, ?_⟩
    rw [called, Option.getD_some]

theorem filter_isSelected (tree : Entry) (paths : List String) :
    paths.filter (isSelected tree) = paths.filter (fun path => IsListed tree path) :=
  List.filter_congr fun path _ => by rw [Bool.eq_iff_iff, isSelected_iff, decide_eq_true_iff]

theorem run_eq_ok_iff : run policy audit tree paths = .ok report ↔
    List.Forall₂ (ReportOf policy audit tree) (paths.filter (fun path => IsListed tree path))
      report := by
  have same : Reported policy audit tree = ReportOf policy audit tree := by
    funext path file
    exact propext reported_iff
  rw [run_eq_ok, filter_isSelected, same]

theorem run_succeeds_iff_text : (∃ report, run policy audit tree paths = .ok report) ↔
    ∀ path ∈ paths, IsListed tree path → IsText tree path := by
  simp only [run_succeeds_iff, isSelected_iff, read_eq_ok, IsText]

/-! One path, and what is behind it -/

theorem run_cons_listed (listed : IsListed tree path) :
    run policy audit tree (path :: paths) = (do
      let findings ← audit.checkFile policy tree path
      let rest ← run policy audit tree paths
      return ⟨path, findings⟩ :: rest) :=
  run_cons_checked (isSelected_iff.mpr listed)

theorem run_cons_unlisted (unlisted : ¬IsListed tree path) :
    run policy audit tree (path :: paths) = run policy audit tree paths :=
  run_cons_passed (Bool.eq_false_iff.mpr (mt isSelected_iff.mp unlisted))

theorem checkFile_of_text (policy : Policy) (audit : Audit) (listed : IsListed tree path)
    (text : IsText tree path) : ∃ findings, audit.checkFile policy tree path = .ok findings := by
  obtain ⟨language, extension⟩ := listed.2
  obtain ⟨content, leads⟩ := text
  rw [checkFile, languageOf?_eq_some.mpr extension, read_eq_ok.mpr leads]
  exact ⟨_, rfl⟩

theorem checkFile_of_noText {cause : PathError} (listed : IsListed tree path)
    (noText : NoText tree path cause) :
    audit.checkFile policy tree path = .error ⟨path, cause⟩ := by
  obtain ⟨present, language, extension⟩ := listed
  rw [checkFile, languageOf?_eq_some.mpr extension, (read_eq_error present).mpr noText]

theorem isText_or_noText (listed : IsListed tree path) :
    IsText tree path ∨ ∃ cause, NoText tree path cause := by
  obtain ⟨⟨e, leads⟩, _⟩ := listed
  cases e with
  | directory entries => exact Or.inr ⟨_, .directory leads⟩
  | file text =>
    cases text with
    | none => exact Or.inr ⟨_, .bytes leads⟩
    | some content => exact Or.inl ⟨content, leads⟩

theorem NoText.not_isText {cause : PathError} (noText : NoText tree path cause) :
    ¬IsText tree path := by
  rintro ⟨content, leads⟩
  cases noText with
  | directory leads' => cases leads.symm.trans leads'
  | bytes leads' => cases leads.symm.trans leads'

theorem NoText.unique {cause other : PathError} (noText : NoText tree path cause)
    (again : NoText tree path other) : cause = other := by
  cases noText with
  | directory leads => cases again with
    | directory => rfl
    | bytes leads' => cases leads.symm.trans leads'
  | bytes leads => cases again with
    | directory leads' => cases leads.symm.trans leads'
    | bytes => rfl

theorem run_cons_eq_error {e : ReadError} : run policy audit tree (path :: paths) = .error e ↔
    (path = e.path ∧ IsListed tree e.path ∧ NoText tree e.path e.cause) ∨
      ((IsListed tree path → IsText tree path) ∧ run policy audit tree paths = .error e) := by
  by_cases listed : IsListed tree path
  · rw [run_cons_listed listed]
    rcases isText_or_noText listed with text | ⟨cause, noText⟩
    · obtain ⟨findings, checked⟩ := checkFile_of_text policy audit listed text
      rw [checked]
      constructor
      · intro ended
        cases behind : run policy audit tree paths with
        | error e' =>
          rw [behind] at ended
          obtain rfl : e' = e := Except.error.inj ended
          exact Or.inr ⟨fun _ => text, rfl⟩
        | ok rest =>
          rw [behind] at ended
          cases ended
      · rintro (⟨rfl, _, noText⟩ | ⟨_, behind⟩)
        · exact absurd text noText.not_isText
        · rw [behind]
          rfl
    · rw [checkFile_of_noText listed noText]
      constructor
      · intro ended
        obtain rfl : ⟨path, cause⟩ = e := Except.error.inj ended
        exact Or.inl ⟨rfl, listed, noText⟩
      · rintro (⟨rfl, _, again⟩ | ⟨readable, _⟩)
        · rw [noText.unique again]
          rfl
        · exact absurd (readable listed) noText.not_isText
  · rw [run_cons_unlisted listed]
    constructor
    · intro ended
      exact Or.inr ⟨fun given => absurd given listed, ended⟩
    · rintro (⟨rfl, given, _⟩ | ⟨_, ended⟩)
      · exact absurd given listed
      · exact ended

/-- An audit ends with the first path that it looks into and that is no text. -/
theorem run_eq_error_iff {e : ReadError} : run policy audit tree paths = .error e ↔
    ∃ before after, paths = before ++ e.path :: after ∧
      (∀ path ∈ before, IsListed tree path → IsText tree path) ∧
      IsListed tree e.path ∧ NoText tree e.path e.cause := by
  induction paths with
  | nil => simp [run]
  | cons path paths ih =>
    rw [run_cons_eq_error, ih]
    constructor
    · rintro (⟨rfl, ends⟩ | ⟨head, before, after, rfl, rest, ends⟩)
      · exact ⟨[], paths, rfl, by simp, ends⟩
      · exact ⟨path :: before, after, rfl, List.forall_mem_cons.mpr ⟨head, rest⟩, ends⟩
    · rintro ⟨before, after, same, readable, ends⟩
      cases before with
      | nil => exact Or.inl ⟨(List.cons.inj same).1, ends⟩
      | cons first before =>
        obtain ⟨rfl, rfl⟩ := List.cons.inj same
        obtain ⟨head, rest⟩ := List.forall_mem_cons.mp readable
        exact Or.inr ⟨head, before, after, rfl, rest, ends⟩

theorem run_append (paths more : List String) : run policy audit tree (paths ++ more) = (do
    let report ← run policy audit tree paths
    let rest ← run policy audit tree more
    return report ++ rest) := by
  induction paths with
  | nil =>
    rw [List.nil_append, run]
    cases run policy audit tree more <;> rfl
  | cons path paths ih =>
    rw [List.cons_append]
    by_cases listed : IsListed tree path
    · rw [run_cons_listed listed, run_cons_listed listed, ih]
      simp only [bind_assoc, pure_bind, List.cons_append]
    · rw [run_cons_unlisted listed, run_cons_unlisted listed, ih]

theorem run_append_unlisted {before after : List String} (unlisted : ¬IsListed tree path) :
    run policy audit tree (before ++ path :: after) = run policy audit tree (before ++ after) := by
  rw [run_append, run_cons_unlisted unlisted, ← run_append]

/-- An audit of a list of paths, whether it succeeds or not. -/
theorem listed_paths_audited (policy : Policy) (audit : Audit) (tree : Entry) :
    (∀ paths, (∃ report, run policy audit tree paths = .ok report) ↔
      ∀ path ∈ paths, IsListed tree path → IsText tree path) ∧
    (∀ paths report, run policy audit tree paths = .ok report →
      List.Forall₂ (ReportOf policy audit tree)
          (paths.filter (fun path => IsListed tree path)) report ∧
        report.total = (report.map (·.findings.length)).sum) ∧
    (∀ paths e, run policy audit tree paths = .error e ↔
      ∃ before after, paths = before ++ e.path :: after ∧
        (∀ path ∈ before, IsListed tree path → IsText tree path) ∧
        IsListed tree e.path ∧ NoText tree e.path e.cause) ∧
    (∀ before path after, ¬IsListed tree path →
      run policy audit tree (before ++ path :: after) =
        run policy audit tree (before ++ after)) ∧
    ∀ paths more report rest, run policy audit tree paths = .ok report →
      run policy audit tree more = .ok rest →
        run policy audit tree (paths ++ more) = .ok (report ++ rest) := by
  refine ⟨fun paths => run_succeeds_iff_text, ?_, fun paths e => run_eq_error_iff,
    fun before path after => run_append_unlisted, ?_⟩
  · intro paths report done
    refine ⟨run_eq_ok_iff.mp done, ?_⟩
    rw [Report.total, Report.findings, List.length_flatMap]
  · intro paths more report rest first second
    rw [run_append, first, second]
    rfl

/- A source that is listed twice among paths that are passed over, in front of a directory and of
   a file of other bytes. -/
def mixedTree : Entry :=
  .directory [("main.bicep", .file (some "resource")), ("notes.md", .file none),
    ("old.tf", .directory []), ("raw.tf", .file none)]

theorem mixedTree_audited :
    (∀ path ∈ ["gone.tf", "main.bicep", "notes.md", "./main.bicep"],
      IsListed mixedTree path → IsText mixedTree path) ∧
    run .standard .tags mixedTree
        ["gone.tf", "main.bicep", "notes.md", "./main.bicep", "old.tf", "raw.tf"] =
      .error ⟨"old.tf", .isDirectory⟩ ∧
    run .standard .tags mixedTree ["main.bicep", "notes.md", "./main.bicep"] =
      run .standard .tags mixedTree ["main.bicep", "./main.bicep"] := by
  obtain ⟨_, _, ends, passes, _⟩ := listed_paths_audited .standard .tags mixedTree
  have texts : ∀ path ∈ ["gone.tf", "main.bicep", "notes.md", "./main.bicep"],
      IsListed mixedTree path → IsText mixedTree path := by
    simp only [List.forall_mem_cons]
    refine ⟨fun listed => absurd listed (by decide +kernel),
      fun _ => ⟨"resource", read_eq_ok.mp (by decide +kernel)⟩,
      fun listed => absurd listed (by decide +kernel),
      fun _ => ⟨"resource", read_eq_ok.mp (by decide +kernel)⟩, List.forall_mem_nil _⟩
  have listed : IsListed mixedTree "old.tf" := by decide +kernel
  have directory : NoText mixedTree "old.tf" .isDirectory :=
    (read_eq_error listed.1).mp (by decide +kernel)
  refine ⟨texts, ?_, ?_⟩
  · exact (ends _ ⟨"old.tf", .isDirectory⟩).mpr
      ⟨_, ["raw.tf"], rfl, texts, listed, directory⟩
  · exact passes ["main.bicep"] "notes.md" ["./main.bicep"] (by decide +kernel)

end InfraLint.Audit
