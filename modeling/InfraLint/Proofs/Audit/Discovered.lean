import InfraLint.Proofs.Audit.Reports
import InfraLint.Proofs.Tree.Discovery
import InfraLint.Proofs.Tree.Walk

/-!
Audits of what has been discovered. Discovery goes by the end of a name alone. The audit takes a
name apart at its last point, and reads a file: so a directory that is called like a source ends
it, and a file with nothing but the extension for a name is passed over.
-/
namespace InfraLint
open Source

variable {base : String} {names place : List String} {language : Language} {name path : String}
  {tree e : Entry} {files : Files}

/-- A file that has something in front of its extension. -/
structure IsSource (language : Language) (name : String) (e : Entry) : Prop where
  stem : name ≠ "." ++ language.extension
  file : ∃ text, e = .file text

theorem stem_of_isSourceName (source : isSourceName language name = true) :
    ∃ stem, name.toList = stem ++ '.' :: language.extension.toList := by
  obtain ⟨stem, split⟩ := (isSourceName_iff_suffix.mp source).2
  exact ⟨stem, split.symm⟩

theorem ofExtension?_extension (language : Language) :
    Language.ofExtension? language.extension = some language := by
  cases language <;> decide

theorem fresh_extension (language : Language) : '.' ∉ language.extension.toList := by
  cases language <;> decide

theorem source_notAbove (source : isSourceName language name = true) : name ≠ ".." := by
  rintro rfl
  revert source
  cases language <;> decide

/-- The language of a source shows in its path, unless nothing stands in front of the extension. -/
theorem languageOf?_join (joinable : Path.Joinable (names ++ [name]))
    (isName : Path.IsName name) (source : isSourceName language name = true) :
    (Audit.languageOf? (Path.join (names ++ [name]))).isSome = true ↔
      name ≠ "." ++ language.extension := by
  obtain ⟨stem, split⟩ := stem_of_isSourceName source
  have bare : stem = [] ↔ name = "." ++ language.extension := by
    rw [← String.toList_inj, split, String.toList_append]
    have point : ".".toList = ['.'] := rfl
    rw [point, ← List.singleton_append, List.append_left_eq_self]
  rw [Audit.languageOf?, Path.extension?_join joinable isName (source_notAbove source) split
    (fresh_extension language), ne_eq, ← bare]
  split
  · simp_all
  · simp_all [ofExtension?_extension]

theorem read_of_find (found : tree.find path = .ok e) (text : e.isText = true) :
    (∃ content, tree.read path = .ok content) ↔ ∃ text, e = .file text := by
  unfold Entry.read
  rw [found]
  cases e with
  | file content =>
    cases content with
    | none => cases text
    | some content => exact iff_of_true ⟨content, rfl⟩ ⟨some content, rfl⟩
  | directory entries =>
    constructor
    · rintro ⟨content, read⟩
      cases read
    · rintro ⟨text, same⟩
      cases same

/-- In a tree of texts, what is discovered is read and in a language exactly if every entry that is
discovered is a source. -/
theorem sources_read_iff (proper : tree.Proper) (texts : tree.everywhere Entry.isText = true)
    (shown : baseNames? base = some names) :
    (∀ path ∈ sourcesBelow names tree .terraform ++ sourcesBelow names tree .bicep,
      (Audit.languageOf? path).isSome = true ∧ ∃ content, tree.read path = .ok content) ↔
    ∀ language place name e,
      tree.at? (names.filter (· ≠ ".") ++ language.root ++ (place ++ [name])) = .ok e →
        isSourceName language name = true → IsSource language name e := by
  have each {language : Language} {place : List String} {name : String} {e : Entry}
      (leads : tree.at? (names.filter (· ≠ ".") ++ language.root ++ (place ++ [name])) = .ok e)
      (source : isSourceName language name = true) :
      ((Audit.languageOf? (Path.join (names ++ language.root ++ (place ++ [name])))).isSome = true ∧
        ∃ content, tree.read (Path.join (names ++ language.root ++ (place ++ [name]))) =
          .ok content) ↔ IsSource language name e := by
    have joinable := joinable_discovered proper shown leads
    have isName := isName_discovered proper leads name (by simp)
    have text := Entry.everywhere_here (Entry.everywhere_at? texts leads)
    rw [read_of_find (find_discovered proper shown leads) text, ← List.append_assoc,
      languageOf?_join (List.append_assoc .. ▸ joinable) isName source]
    exact ⟨fun h => ⟨h.1, h.2⟩, fun h => ⟨h.stem, h.file⟩⟩
  constructor
  · intro all language place name e leads source
    refine (each leads source).mp (all _ ?_)
    exact (mem_sources_proper proper).mpr ⟨language, place, name, e, leads, source, rfl⟩
  · intro sources path member
    obtain ⟨language, place, name, e, leads, source, rfl⟩ := (mem_sources_proper proper).mp member
    exact (each leads source).mpr (sources _ _ _ _ leads source)

/-- In a tree of texts, an audit of what is discovered succeeds with one report for each path, in
order, exactly if no directory that is listed for it is closed and every entry that is discovered is
a source. -/
theorem discovered_all_reported_iff (proper : files.tree.Proper)
    (texts : files.tree.everywhere Entry.isText = true) (base : String) (policy : Policy)
    (audit : Audit) :
    (∃ paths report, discover base files = .ok paths ∧
      audit.run policy files.tree paths = .ok report ∧ report.map (·.path) = paths) ↔
    ¬ Blocked base files ∧
      ∀ names, baseNames? (Native.shown base) = some names → ∀ language place name e,
        files.tree.at? (names.filter (· ≠ ".") ++ language.root ++ (place ++ [name])) = .ok e →
          isSourceName language name = true → IsSource language name e := by
  simp only [exists_and_left, Audit.reports_all_iff]
  cases shown : baseNames? (Native.shown base) with
  | none =>
    obtain ⟨free, found⟩ := discover_of_lost files shown
    simp [found, free]
  | some names =>
    simp only [discover_eq_ok shown, and_assoc, exists_and_left, exists_eq_left,
      Option.some.injEq, forall_eq', sources_read_iff proper texts shown]

theorem read_iff_toOption {content : String} :
    tree.read path = .ok content ↔ (tree.read path).toOption = some content := by
  cases tree.read path <;> simp [Except.toOption]

theorem proper_of_top {top : String} {child : Entry}
    (names : child.everywhere Entry.hasNames = true) : (Entry.directory [(top, child)]).Proper := by
  intro name e leads
  obtain ⟨_, found, same, look, here⟩ := Entry.at?_eq_ok_cons.mp leads
  obtain rfl := Entry.directory.inj same
  obtain ⟨rfl, rfl⟩ : name = top ∧ found = child := by
    simpa using Entry.mem_of_lookup look
  obtain rfl : found = e := by simpa [Entry.at?] using here
  exact names

/- Sources in both languages, one of them with two points in its name. -/
def workTree : Entry :=
  .directory [("work", .directory [("infra", .directory [
    ("bicep", .directory [("main.bicep", .file (some ""))]),
    ("terraform", .directory [("main.tf", .file (some "")),
      ("modules", .directory [("kv.v2.tf", .file (some ""))])])])])]

theorem workTree_reported :
    workTree.Proper ∧ workTree.everywhere Entry.isText = true ∧
      discover "./work/" { tree := workTree } =
        .ok ["work/infra/terraform/main.tf", "work/infra/terraform/modules/kv.v2.tf",
          "work/infra/bicep/main.bicep"] ∧
      IsSource .terraform "kv.v2.tf" (.file (some "")) := by
  have proper : workTree.Proper := proper_of_top (by decide +kernel)
  have texts : workTree.everywhere Entry.isText = true := by decide +kernel
  let paths := ["work/infra/terraform/main.tf", "work/infra/terraform/modules/kv.v2.tf",
    "work/infra/bicep/main.bicep"]
  have found : discover "./work/" { tree := workTree } = .ok paths := by decide +kernel
  have reported : ∃ report, Audit.run .standard .naming workTree paths = .ok report ∧
      report.map (·.path) = paths := by
    rw [Audit.reports_all_iff]
    simp only [paths, List.forall_mem_cons, read_iff_toOption]
    exact ⟨⟨by decide +kernel, "", by decide +kernel⟩, ⟨by decide +kernel, "", by decide +kernel⟩,
      ⟨by decide +kernel, "", by decide +kernel⟩, List.forall_mem_nil _⟩
  obtain ⟨report, done, same⟩ := reported
  have sources := (@discovered_all_reported_iff { tree := workTree } proper texts
    "./work/" .standard .naming).mp ⟨paths, report, found, done, same⟩
  exact ⟨proper, texts, found, sources.2 ["work"] (by decide +kernel) .terraform ["modules"]
    "kv.v2.tf" _ rfl (by decide +kernel)⟩

/- A directory of old sources that is called like a source itself. -/
def oldSources : Entry :=
  .directory [("infra", .directory [("terraform",
    .directory [("main.tf", .file (some "")), ("old.tf", .directory [])])])]

theorem discovered_directory_ends_audit :
    ¬∀ tree : Entry, tree.Proper → tree.everywhere Entry.isText = true →
      ∀ base policy (audit : Audit), ∃ paths report, discover base { tree } = .ok paths ∧
        audit.run policy tree paths = .ok report ∧ report.map (·.path) = paths := by
  intro all
  have proper : oldSources.Proper := proper_of_top (by decide +kernel)
  obtain ⟨paths, report, found, done, same⟩ :=
    all oldSources proper (by decide +kernel) "." .standard .naming
  have both : discover "." { tree := oldSources } =
      .ok ["infra/terraform/main.tf", "infra/terraform/old.tf"] := by decide +kernel
  obtain rfl := Except.ok.inj (both.symm.trans found)
  obtain ⟨_, content, read⟩ :=
    Audit.reports_all_iff.mp ⟨report, done, same⟩ "infra/terraform/old.tf" (by simp)
  have unreadable : (oldSources.read "infra/terraform/old.tf").toOption = none := by
    decide +kernel
  rw [read_iff_toOption, unreadable] at read
  cases read

end InfraLint
