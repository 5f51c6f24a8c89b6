import InfraLint.Proofs.Text.Native
import InfraLint.Proofs.Tree.Discovery
import InfraLint.Proofs.Tree.Order
import InfraLint.Proofs.Tree.Walk
import Mathlib.Data.List.TakeWhile

/-!
Discovery as a listing. What is discovered are all sources of a tree, language by language, each
once and in the order of the paths, and it takes no more than the places of the tree to know them.
Where an empty segment stands behind dots at the start of the base, nothing is discovered. Sources
whose own names are not UTF-8 are passed over, and a directory that cannot be listed is an error.
-/
namespace InfraLint
open Source

def LosesBase (base : String) : Prop :=
  ∃ dots rest, (∀ dot ∈ dots, dot = ".") ∧
    (Path.segments base.toList).map String.ofList = "." :: dots ++ "" :: rest

def sourceRoot (base : String) (language : Language) : List String :=
  Path.names (base ++ "/" ++ "/".intercalate language.root)

/-- A place at any depth below the directory of a language, with an entry whose name has the
extension at its end. -/
def IsSourcePlace (tree : Entry) (base : String) (language : Language)
    (names : List String) : Prop :=
  ∃ place name e, names = sourceRoot base language ++ (place ++ [name]) ∧
    tree.at? names = .ok e ∧ '.' :: language.extension.toList <:+ name.toList

/-- All sources of a language, in the order of their names and bytes. -/
structure ListsLanguage (tree : Entry) (base : String) (language : Language)
    (paths : List String) : Prop where
  exact : ∀ names, names ∈ paths.map Path.names ↔ IsSourcePlace tree base language names
  increasing : paths.Pairwise fun p q =>
    (Path.names p).map Native.bytes < (Path.names q).map Native.bytes

def ListsSources (tree : Entry) (base : String) (paths : List String) : Prop :=
  ∃ terraform bicep, paths = terraform ++ bicep ∧
    ListsLanguage tree base .terraform terraform ∧ ListsLanguage tree base .bicep bicep ∧
      paths.Nodup

def NamedInUtf8 (tree : Entry) (base : String) : Prop :=
  ∀ language names, IsSourcePlace tree base language names →
    ∀ name ∈ names.getLast?, Native.isUtf8 name = true

variable {base : String} {names place : List String} {language : Language} {name path : String}
  {tree tree' e : Entry} {files : Files}

/-! Bases -/

theorem baseNames?_eq_none_iff : baseNames? base = none ↔ LosesBase base := by
  unfold baseNames? LosesBase
  generalize (Path.segments base.toList).map String.ofList = segments
  constructor
  · intro lost
    dsimp only at lost
    split at lost
    · rename_i rest behind
      split at lost
      · rename_i starts
        have parts := List.takeWhile_append_dropWhile (p := (· = ".")) (l := segments)
        rw [behind] at parts
        cases front : segments.takeWhile (· = ".") with
        | nil =>
          rw [front, List.nil_append] at parts
          rw [← parts] at starts
          simp at starts
        | cons dot dots =>
          have all : ∀ s ∈ dot :: dots, s = "." := by
            rw [← front]
            intro s member
            have isDot := List.mem_takeWhile_imp member
            simpa using isDot
          obtain ⟨rfl, others⟩ := List.forall_mem_cons.mp all
          exact ⟨dots, rest, others, by rw [← parts, front]⟩
      · cases lost
    · cases lost
  · rintro ⟨dots, rest, all, rfl⟩
    have behind : ("." :: dots ++ "" :: rest).dropWhile (· = ".") = "" :: rest := by
      rw [List.dropWhile_append_of_pos (by simpa using all)]
      rfl
    dsimp only
    rw [behind]
    rfl

theorem names_eq (path : String) : Path.names path =
    (if Path.isAbsolute path then ["/"] else []) ++
      (((Path.segments path.toList).map String.ofList).filter (· ≠ "")).filter (· ≠ ".") := by
  rw [List.filter_filter]
  unfold Path.names
  congr 2
  funext s
  simp [Bool.and_comm]

theorem isAbsolute_below (base more : String) : Path.isAbsolute (base ++ "/" ++ more) = true ↔
    ((Path.segments base.toList).map String.ofList).head? = some "" := by
  have slash : "/".toList = ['/'] := rfl
  rw [Path.isAbsolute_iff, String.toList_append, String.toList_append, slash]
  cases base.toList with
  | nil => simp [Path.segments]
  | cons c s =>
    by_cases isSlash : c = '/'
    · simp [Path.segments, isSlash]
    · obtain ⟨first, rest, split⟩ := List.exists_cons_of_ne_nil (Path.segments_ne_nil s)
      simp [Path.segments, isSlash, split]

theorem filter_dropWhile_dots (segments : List String) :
    ((segments.dropWhile (· = ".")).filter (· ≠ "")).filter (· ≠ ".") =
      (segments.filter (· ≠ "")).filter (· ≠ ".") := by
  induction segments with
  | nil => rfl
  | cons s segments ih =>
    by_cases dot : s = "."
    · simpa [dot] using ih
    · simp [dot]

/-- A base that starts with an empty segment shows from the root on, any other one from its first
segment on that is no dot. -/
theorem baseNames?_eq_some (shown : baseNames? base = some names) :
    let segments := (Path.segments base.toList).map String.ofList
    (segments.head? = some "" ∧ names = "/" :: segments.filter (· ≠ "")) ∨
      (segments.head? ≠ some "" ∧ names = (segments.dropWhile (· = ".")).filter (· ≠ "")) := by
  unfold baseNames? at shown
  revert shown
  generalize (Path.segments base.toList).map String.ofList = segments
  intro shown
  dsimp only at shown ⊢
  split at shown
  · rename_i rest behind
    split at shown
    · cases shown
    · rename_i noDot
      obtain rfl := Option.some.inj shown
      cases segments with
      | nil => cases behind
      | cons first segments =>
        have noDot : first ≠ "." := by simpa using noDot
        rw [List.dropWhile_cons_of_neg (by simpa using noDot)] at behind
        obtain ⟨rfl, rfl⟩ := List.cons.inj behind
        exact Or.inl ⟨rfl, by simp⟩
  · rename_i behind
    obtain rfl := Option.some.inj shown
    refine Or.inr ⟨fun starts => ?_, rfl⟩
    obtain ⟨rest, rfl⟩ := List.head?_eq_some_iff.mp starts
    exact behind rest (List.dropWhile_cons_of_neg (by decide))

theorem sourceRoot_eq (shown : baseNames? base = some names) :
    sourceRoot base language = names.filter (· ≠ ".") ++ language.root := by
  have slash : "/".toList = ['/'] := rfl
  have root : ((Path.segments ("/".intercalate language.root).toList).map String.ofList) =
      language.root := by
    rw [Path.segments_joined (root_ne_nil language)
      fun n member => (root_isName language n member).toShows, Path.ofList_toList]
  have kept : (language.root.filter (· ≠ "")).filter (· ≠ ".") = language.root := by
    cases language <;> decide
  rw [sourceRoot, names_eq, String.toList_append, String.toList_append, slash,
    List.append_assoc, List.singleton_append, Path.segments_slash, List.map_append, root,
    List.filter_append, List.filter_append, kept, ← List.append_assoc]
  congr 1
  have absolute := isAbsolute_below base ("/".intercalate language.root)
  rcases baseNames?_eq_some shown with ⟨starts, rfl⟩ | ⟨starts, rfl⟩
  · rw [if_pos (absolute.mpr starts)]
    exact (List.filter_cons_of_pos (by decide)).symm
  · rw [if_neg (mt absolute.mp starts), List.nil_append, filter_dropWhile_dots]

/-! One language -/

theorem sourcesBelow_increasing (language : Language) (ordered : tree.Ordered)
    (shown : baseNames? base = some names) :
    (sourcesBelow names tree language).Pairwise fun p q =>
      Entry.Precedes (Path.names p) (Path.names q) := by
  unfold sourcesBelow
  cases leads : tree.at? (names.filter (· ≠ ".") ++ language.root) with
  | error cause => exact List.Pairwise.nil
  | ok directory =>
    have all := ordered.at? (by simp [root_ne_nil]) leads
    have shownNames {place : List String} (below : place ∈ directory.descendants) :
        Path.names (Path.join (names ++ language.root ++ place)) =
          names.filter (· ≠ ".") ++ language.root ++ place := by
      obtain ⟨_, e, further⟩ := (Entry.mem_descendants
        (Entry.everywhere_mono Entry.hasNames_of_hasOrder directory all)).mp below
      exact names_discovered ordered.proper shown (Entry.at?_append.mpr ⟨directory, leads, further⟩)
    rw [List.pairwise_map]
    refine ((Entry.descendants_increasing directory all).filter _).imp_of_mem ?_
    intro p q memberP memberQ before
    rw [shownNames (List.mem_filter.mp memberP).1, shownNames (List.mem_filter.mp memberQ).1]
    exact before.append _

theorem mem_names_sourcesBelow (ordered : tree.Ordered) (shown : baseNames? base = some names) :
    place ∈ (sourcesBelow names tree language).map Path.names ↔
      IsSourcePlace tree base language place ∧
        ∀ name ∈ place.getLast?, Native.isUtf8 name = true := by
  simp only [List.mem_map, mem_sourcesBelow_proper ordered.proper, IsSourcePlace,
    sourceRoot_eq shown, isSourceName_iff_suffix]
  constructor
  · rintro ⟨_, ⟨below, name, e, leads, ⟨utf8, source⟩, rfl⟩, rfl⟩
    rw [names_discovered ordered.proper shown leads]
    exact ⟨⟨below, name, e, rfl, leads, source⟩, by simpa using utf8⟩
  · rintro ⟨⟨below, name, e, rfl, leads, source⟩, utf8⟩
    have utf8 : Native.isUtf8 name = true := by simpa using utf8
    exact ⟨_, ⟨below, name, e, leads, ⟨utf8, source⟩, rfl⟩,
      names_discovered ordered.proper shown leads⟩

theorem sourcesBelow_lists (language : Language) (ordered : tree.Ordered)
    (shown : baseNames? base = some names) (utf8 : NamedInUtf8 tree base) :
    ListsLanguage tree base language (sourcesBelow names tree language) := by
  refine ⟨fun place => ?_, sourcesBelow_increasing language ordered shown⟩
  rw [mem_names_sourcesBelow ordered shown]
  exact ⟨fun listed => listed.1, fun source => ⟨source, utf8 language place source⟩⟩

theorem sourcesBelow_nodup (language : Language) (ordered : tree.Ordered)
    (shown : baseNames? base = some names) : (sourcesBelow names tree language).Nodup := by
  refine (sourcesBelow_increasing language ordered shown).imp fun {p q} before same => ?_
  subst same
  exact List.lt_irrefl _ before

theorem sourcesBelow_congr (ordered : tree.Ordered) (ordered' : tree'.Ordered)
    (shown : baseNames? base = some names)
    (same : ∀ names, (∃ e, tree.at? names = .ok e) ↔ ∃ e, tree'.at? names = .ok e) :
    sourcesBelow names tree language = sourcesBelow names tree' language := by
  have member (path : String) : path ∈ sourcesBelow names tree language ↔
      path ∈ sourcesBelow names tree' language := by
    simp only [mem_sourcesBelow_proper ordered.proper,
      mem_sourcesBelow_proper ordered'.proper, exists_and_right, same]
  have increasing := sourcesBelow_increasing language ordered shown
  have increasing' := sourcesBelow_increasing language ordered' shown
  have perm := (List.perm_ext_iff_of_nodup (sourcesBelow_nodup language ordered shown)
    (sourcesBelow_nodup language ordered' shown)).mpr member
  refine perm.eq_of_pairwise (fun p q _ _ before after => ?_) increasing increasing'
  exact absurd (List.lt_trans before after) (List.lt_irrefl _)

/-! Both languages -/

theorem sources_nodup (ordered : tree.Ordered) (shown : baseNames? base = some names) :
    (sourcesBelow names tree .terraform ++ sourcesBelow names tree .bicep).Nodup := by
  refine List.nodup_append.mpr ⟨sourcesBelow_nodup _ ordered shown,
    sourcesBelow_nodup _ ordered shown, ?_⟩
  rintro path inTerraform _ inBicep rfl
  obtain ⟨⟨place, name, e, same, _⟩, _⟩ :=
    (mem_names_sourcesBelow ordered shown).mp (List.mem_map_of_mem inTerraform)
  obtain ⟨⟨place', name', e', same', _⟩, _⟩ :=
    (mem_names_sourcesBelow ordered shown).mp (List.mem_map_of_mem inBicep)
  -- the two directories differ in their last names
  rw [same, sourceRoot_eq shown, sourceRoot_eq shown, List.append_assoc, List.append_assoc] at same'
  have behind := List.append_cancel_left same'
  simp [Language.root] at behind

theorem sources_lists_iff (ordered : tree.Ordered) (shown : baseNames? base = some names) :
    ListsSources tree base
        (sourcesBelow names tree .terraform ++ sourcesBelow names tree .bicep) ↔
      NamedInUtf8 tree base := by
  constructor
  · rintro ⟨terraform, bicep, all, exactTerraform, exactBicep, _⟩ language place source
    have listed : place ∈ (terraform ++ bicep).map Path.names := by
      rw [List.map_append, List.mem_append]
      cases language with
      | terraform => exact Or.inl ((exactTerraform.exact place).mpr source)
      | bicep => exact Or.inr ((exactBicep.exact place).mpr source)
    rw [← all, List.map_append, List.mem_append] at listed
    rcases listed with listed | listed
    · exact ((mem_names_sourcesBelow ordered shown).mp listed).2
    · exact ((mem_names_sourcesBelow ordered shown).mp listed).2
  · intro utf8
    exact ⟨_, _, rfl, sourcesBelow_lists _ ordered shown utf8,
      sourcesBelow_lists _ ordered shown utf8, sources_nodup ordered shown⟩

theorem lists_nil_iff : ListsSources tree base [] ↔
    ∀ language names, ¬IsSourcePlace tree base language names := by
  constructor
  · rintro ⟨terraform, bicep, all, exactTerraform, exactBicep, _⟩ language names source
    obtain ⟨rfl, rfl⟩ := List.append_eq_nil_iff.mp all.symm
    cases language with
    | terraform => cases (exactTerraform.exact names).mpr source
    | bicep => cases (exactBicep.exact names).mpr source
  · intro nothing
    have empty (language : Language) : ListsLanguage tree base language [] :=
      ⟨fun names => iff_of_false (by simp) (nothing language names), List.Pairwise.nil⟩
    exact ⟨[], [], rfl, empty _, empty _, List.nodup_nil⟩

theorem discover_eq_nil (lost : LosesBase (Native.shown base)) : discover base files = .ok [] :=
  (discover_of_lost _ (baseNames?_eq_none_iff.mpr lost)).2

theorem discover_lists_iff (base : String) (ordered : files.tree.Ordered) :
    (∃ paths, discover base files = .ok paths ∧
        ListsSources files.tree (Native.shown base) paths) ↔
      ¬ Blocked base files ∧
        (LosesBase (Native.shown base) →
          ∀ language names, ¬IsSourcePlace files.tree (Native.shown base) language names) ∧
        NamedInUtf8 files.tree (Native.shown base) := by
  cases shown : baseNames? (Native.shown base) with
  | none =>
    have lost := baseNames?_eq_none_iff.mp shown
    obtain ⟨free, found⟩ := discover_of_lost files shown
    simp only [found, Except.ok.injEq, exists_eq_left', lists_nil_iff, free, lost, true_imp_iff,
      not_false_eq_true, true_and]
    exact ⟨fun nothing => ⟨nothing, fun language names source => absurd source (nothing _ _)⟩,
      fun nothing => nothing.1⟩
  | some names =>
    have kept : ¬ LosesBase (Native.shown base) := by
      rw [← baseNames?_eq_none_iff, shown]
      exact Option.some_ne_none names
    simp only [discover_eq_ok shown, and_assoc, exists_and_left, exists_eq_left, kept,
      false_imp_iff, true_and, sources_lists_iff ordered shown]

theorem discover_congr (ordered : tree.Ordered) (ordered' : tree'.Ordered)
    (same : ∀ names, (∃ e, tree.at? names = .ok e) ↔ ∃ e, tree'.at? names = .ok e) :
    discover base { tree } = discover base { tree := tree' } := by
  cases shown : baseNames? (Native.shown base) with
  | none => rw [(discover_of_lost _ shown).2, (discover_of_lost _ shown).2]
  | some names =>
    have found := (discover_eq_ok shown).mpr ⟨not_blocked base tree, rfl⟩
    have found' := (discover_eq_ok shown).mpr ⟨not_blocked base tree', rfl⟩
    rw [found, found', sourcesBelow_congr ordered ordered' shown same,
      sourcesBelow_congr ordered ordered' shown same]

/-- Discovery lists the sources of a tree exactly if no directory in its way is closed, the base is
not lost or there are none, and their names are UTF-8. The base counts as it is shown. The order in
which a tree was built does not show in the list. -/
theorem discovered_sources_listed_iff (base : String) :
    (∀ files : Files, files.tree.Ordered →
      ((∃ paths, discover base files = .ok paths ∧
          ListsSources files.tree (Native.shown base) paths) ↔
        ¬ Blocked base files ∧
          (LosesBase (Native.shown base) →
            ∀ language names, ¬IsSourcePlace files.tree (Native.shown base) language names) ∧
          NamedInUtf8 files.tree (Native.shown base))) ∧
    (∀ files : Files, LosesBase (Native.shown base) → discover base files = .ok []) ∧
    (∀ tree tree' : Entry, tree.Built → tree'.Built →
      (∀ names, (∃ e, tree.at? names = .ok e) ↔ ∃ e, tree'.at? names = .ok e) →
        discover base { tree } = discover base { tree := tree' }) ∧
    (Native.isUtf8 base = true → Native.shown base = base) :=
  ⟨fun _ => discover_lists_iff base, fun _ => discover_eq_nil,
    fun _ _ built built' => discover_congr built.ordered built'.ordered, Native.shown_of_isUtf8⟩

theorem exists_at?_iff (inside : tree.everywhere Entry.hasNames = true) :
    (∃ e, tree.at? names = .ok e) ↔ names = [] ∨ names ∈ tree.descendants := by
  rw [Entry.mem_descendants inside]
  by_cases here : names = []
  · subst here
    exact iff_of_true ⟨tree, rfl⟩ (Or.inl rfl)
  · simp [here]

/- A base with characters that mean something in patterns, and a directory whose entries stand in
   front of a file, although a slash is a greater byte than a hyphen. -/
def starTree : Entry :=
  .directory [("a*[b]?", .directory [("infra", .directory [
    ("bicep", .directory [("main.bicep", .file (some ""))]),
    ("terraform", .directory [(".tf", .file (some "")),
      ("kv", .directory [("é.tf", .directory [])]), ("kv-1.tf", .file none)])])])]

/- A tree with one entry below the directory for Terraform. -/
def oneEntry (e : Entry) : Entry :=
  .directory [("infra", .directory [("terraform", .directory [("main.tf", e)])])]

theorem names_oneEntry :
    Path.names "infra/terraform/main.tf" = ["infra", "terraform", "main.tf"] := by
  decide +kernel

theorem oneFile_built : (oneEntry (.file (some ""))).Built := by
  have written : Entry.put? (.file (some "")) (Path.names "infra/terraform/main.tf") .empty =
      some (oneEntry (.file (some ""))) := by
    rw [names_oneEntry]
    rfl
  exact .write .empty written

theorem oneDirectory_built : (oneEntry .empty).Built := by
  have made : Entry.put? .empty (Path.names "infra/terraform/main.tf") .empty =
      some (oneEntry .empty) := by
    rw [names_oneEntry]
    rfl
  exact .mkdir .empty made

theorem starTree_listed :
    starTree.Ordered ∧
      (∃ paths, discover "./a*[b]?/" { tree := starTree } = .ok paths ∧
        ListsSources starTree "./a*[b]?/" paths) ∧
      discover "./a*[b]?/" { tree := starTree } =
        .ok ["a*[b]?/infra/terraform/.tf", "a*[b]?/infra/terraform/kv/é.tf",
          "a*[b]?/infra/terraform/kv-1.tf", "a*[b]?/infra/bicep/main.bicep"] ∧
      discover "." { tree := oneEntry (.file (some "")) } =
        discover "." { tree := oneEntry .empty } := by
  have ordered : starTree.Ordered := by decide +kernel
  have shown : baseNames? "./a*[b]?/" ≠ none := by decide +kernel
  obtain ⟨lists, _, _, plain⟩ := discovered_sources_listed_iff "./a*[b]?/"
  rw [plain (by decide +kernel)] at lists
  have agree := (discovered_sources_listed_iff ".").2.2.1 _ _ oneFile_built oneDirectory_built
  have utf8 : NamedInUtf8 starTree "./a*[b]?/" := by
    rintro language names ⟨_, _, e, _, leads, _⟩
    have named : ∀ names ∈ starTree.descendants, ∀ name ∈ names.getLast?,
        Native.isUtf8 name = true := by decide +kernel
    rcases (exists_at?_iff (by decide +kernel)).mp ⟨e, leads⟩ with rfl | below
    · simp
    · exact named names below
  refine ⟨ordered, ?_, by decide +kernel, agree fun names => ?_⟩
  · exact (lists { tree := starTree } ordered).mpr ⟨not_blocked _ _,
      fun lost => absurd (baseNames?_eq_none_iff.mpr lost) shown, utf8⟩
  · rw [exists_at?_iff (by decide +kernel), exists_at?_iff (by decide +kernel)]
    exact Iff.rfl

/-- The directory of the base is there, and so is a source below it. -/
theorem dotted_base_loses_sources :
    ¬∀ tree : Entry, tree.Built → ∀ base, ∃ paths,
      discover base { tree } = .ok paths ∧ ListsSources tree base paths := by
  intro all
  obtain ⟨paths, found, listed⟩ := all _ oneFile_built "./"
  have lost : LosesBase (Native.shown "./") := ⟨[], [], by simp, by decide +kernel⟩
  obtain rfl := Except.ok.inj ((discover_eq_nil lost).symm.trans found)
  have place : IsSourcePlace (oneEntry (.file (some ""))) "./" .terraform
      ["infra", "terraform", "main.tf"] :=
    ⟨[], "main.tf", .file (some ""), by decide +kernel, rfl, "main".toList, by decide +kernel⟩
  exact lists_nil_iff.mp listed _ _ place

end InfraLint
