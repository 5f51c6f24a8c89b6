import InfraLint.Tree.Discovery
import Mathlib.Data.List.Basic

/-!
Walks in search of sources. A walk lists the directories above the names of the base that hold a
character of patterns, then those of the sources of a language and all below them. Discovery fails
exactly if one of these cannot be listed; otherwise it gives all sources.
-/
namespace InfraLint
open Source

inductive Entry.HasDirectory : Entry → List String → Prop where
  | here {entries : List (String × Entry)} : HasDirectory (directory entries) []
  | inside {entries : List (String × Entry)} {name : String} {child : Entry} {names : List String}
      (member : (name, child) ∈ entries) (further : child.HasDirectory names) :
      HasDirectory (directory entries) (name :: names)

/-- What a walk lists from a base. -/
inductive Walked (tree : Entry) (base : List String) : List String → Prop where
  | toBase {front behind : List String} {name : String} {entries : List (String × Entry)}
      (split : base = front ++ name :: behind) (patterned : isPatterned name = true)
      (leads : tree.at? (front.filter (· ≠ ".")) = .ok (.directory entries)) :
      Walked tree base front
  | sources {language : Language} {root : Entry} {names : List String}
      (leads : tree.at? (base.filter (· ≠ ".") ++ language.root) = .ok root)
      (directory : root.HasDirectory names) : Walked tree base (base ++ language.root ++ names)

def Blocked (base : String) (files : Files) : Prop :=
  ∃ names place, baseNames? (Native.shown base) = some names ∧ Walked files.tree names place ∧
    place.filter (· ≠ ".") ∈ files.closed

variable {base above names place : List String} {tree e : Entry} {files : Files}
  {language : Language} {paths : List String}

mutual

theorem Entry.mem_directories : ∀ {e : Entry} {names : List String},
    names ∈ e.directories ↔ e.HasDirectory names
  | .file _, names => by
    constructor
    · intro member
      cases member
    · intro directory
      cases directory
  | .directory entries, names => by
    rw [directories, List.mem_cons, Entry.mem_directoriesOf]
    constructor
    · rintro (rfl | ⟨name, child, rest, member, further, rfl⟩)
      · exact .here
      · exact .inside member further
    · intro directory
      cases directory with
      | here => exact Or.inl rfl
      | inside member further => exact Or.inr ⟨_, _, _, member, further, rfl⟩

theorem Entry.mem_directoriesOf : ∀ {entries : List (String × Entry)} {names : List String},
    names ∈ Entry.directoriesOf entries ↔ ∃ name child rest,
      (name, child) ∈ entries ∧ child.HasDirectory rest ∧ names = name :: rest
  | [], names => by simp [Entry.directoriesOf]
  | (first, e) :: entries, names => by
    rw [directoriesOf, List.mem_append, List.mem_map, Entry.mem_directoriesOf]
    constructor
    · rintro (⟨rest, member, rfl⟩ | ⟨name, child, rest, member, further, rfl⟩)
      · exact ⟨first, e, rest, List.mem_cons_self, Entry.mem_directories.mp member, rfl⟩
      · exact ⟨name, child, rest, List.mem_cons_of_mem _ member, further, rfl⟩
    · rintro ⟨name, child, rest, member, further, rfl⟩
      rcases List.mem_cons.mp member with same | later
      · obtain ⟨rfl, rfl⟩ := Prod.mk.inj same
        exact Or.inl ⟨rest, Entry.mem_directories.mpr further, rfl⟩
      · exact Or.inr ⟨name, child, rest, later, further, rfl⟩

end

theorem mem_searched : place ∈ searched above base ↔
    ∃ front name behind, base = front ++ name :: behind ∧ isPatterned name = true ∧
      place = above ++ front := by
  induction base generalizing above with
  | nil => simp [searched]
  | cons first base ih =>
    have further : place ∈ searched (above ++ [first]) base ↔
        ∃ front name behind, base = front ++ name :: behind ∧ isPatterned name = true ∧
          place = above ++ first :: front := by simp [ih]
    have step : place ∈ searched above (first :: base) ↔
        (isPatterned first = true ∧ place = above) ∨ place ∈ searched (above ++ [first]) base := by
      by_cases patterned : isPatterned first = true <;> simp [searched, patterned]
    rw [step, further]
    constructor
    · rintro (⟨patterned, rfl⟩ | ⟨front, name, behind, rfl, patterned, rfl⟩)
      · exact ⟨[], first, base, rfl, patterned, (List.append_nil _).symm⟩
      · exact ⟨first :: front, name, behind, rfl, patterned, rfl⟩
    · rintro ⟨front, name, behind, split, patterned, rfl⟩
      cases front with
      | nil =>
        obtain ⟨rfl, rfl⟩ := List.cons.inj split
        exact Or.inl ⟨patterned, List.append_nil _⟩
      | cons top front =>
        obtain ⟨rfl, rfl⟩ := List.cons.inj split
        exact Or.inr ⟨front, name, behind, rfl, patterned, rfl⟩

theorem isDirectoryAt_iff : isDirectoryAt tree place = true ↔
    ∃ entries, tree.at? (place.filter (· ≠ ".")) = .ok (.directory entries) := by
  unfold isDirectoryAt
  cases tree.at? (place.filter (· ≠ ".")) with
  | error cause => simp
  | ok e => cases e <;> simp

theorem mem_walk : (∃ language, place ∈ walk base tree language) ↔ Walked tree base place := by
  constructor
  · rintro ⟨language, member⟩
    rcases List.mem_append.mp member with above | below
    · obtain ⟨inBase, directory⟩ := List.mem_filter.mp above
      obtain ⟨front, name, behind, split, patterned, rfl⟩ := mem_searched.mp inBase
      obtain ⟨entries, leads⟩ := isDirectoryAt_iff.mp directory
      exact .toBase split patterned leads
    · split at below
      · cases below
      · rename_i root leads
        obtain ⟨names, inside, rfl⟩ := List.mem_map.mp below
        exact .sources leads (Entry.mem_directories.mp inside)
  · intro walked
    cases walked with
    | toBase split patterned leads =>
      have inBase := mem_searched.mpr ⟨_, _, _, split, patterned, (List.nil_append _).symm⟩
      exact ⟨.terraform, List.mem_append_left _
        (List.mem_filter.mpr ⟨inBase, isDirectoryAt_iff.mpr ⟨_, leads⟩⟩)⟩
    | @sources language root names leads directory =>
      refine ⟨language, List.mem_append_right _ ?_⟩
      rw [leads]
      exact List.mem_map_of_mem (Entry.mem_directories.mpr directory)

/-! Discovery -/

theorem discoverLanguage_eq_ok : discoverLanguage base files language = .ok paths ↔
    (∀ place ∈ walk base files.tree language, place.filter (· ≠ ".") ∉ files.closed) ∧
      paths = sourcesBelow base files.tree language := by
  have listed : (walk base files.tree language).find? files.isClosed = none ↔
      ∀ place ∈ walk base files.tree language, place.filter (· ≠ ".") ∉ files.closed := by
    simp [List.find?_eq_none, Files.isClosed]
  rw [← listed, discoverLanguage]
  split
  · rename_i names found
    simp [found]
  · rename_i free
    simp [free, eq_comm]

variable {text : String}

theorem discover_of_shown (shown : baseNames? (Native.shown text) = some base) :
    discover text files =
      match discoverLanguage base files .terraform, discoverLanguage base files .bicep with
      | .error e, _ => .error e
      | .ok _, .error e => .error e
      | .ok sources, .ok others => .ok (sources ++ others) := by
  rw [discover, shown]
  dsimp only
  cases discoverLanguage base files .terraform with
  | error e => rfl
  | ok sources =>
    cases discoverLanguage base files .bicep with
    | error e => rfl
    | ok others => rfl

/-- Discovery gives all sources, unless a directory that it has to list is closed. -/
theorem discover_eq_ok (shown : baseNames? (Native.shown text) = some base) :
    discover text files = .ok paths ↔ ¬ Blocked text files ∧
      paths = sourcesBelow base files.tree .terraform ++ sourcesBelow base files.tree .bicep := by
  have free_iff : ¬ Blocked text files ↔ ∀ language, ∀ place ∈ walk base files.tree language,
      place.filter (· ≠ ".") ∉ files.closed := by
    constructor
    · intro free language place member closed
      exact free ⟨base, place, shown, mem_walk.mp ⟨language, member⟩, closed⟩
    · rintro free ⟨names, place, same, walked, closed⟩
      obtain rfl := Option.some.inj (shown.symm.trans same)
      obtain ⟨language, member⟩ := mem_walk.mpr walked
      exact free language place member closed
  rw [free_iff, discover_of_shown shown]
  constructor
  · intro found
    split at found
    · cases found
    · cases found
    · rename_i first second
      obtain ⟨terraform, rfl⟩ := discoverLanguage_eq_ok.mp first
      obtain ⟨bicep, rfl⟩ := discoverLanguage_eq_ok.mp second
      cases found
      refine ⟨fun language => ?_, rfl⟩
      cases language with
      | terraform => exact terraform
      | bicep => exact bicep
  · rintro ⟨free, rfl⟩
    have listed (language : Language) : discoverLanguage base files language =
        .ok (sourcesBelow base files.tree language) :=
      discoverLanguage_eq_ok.mpr ⟨free language, rfl⟩
    rw [listed, listed]

theorem discoverLanguage_eq_error {e : WalkError}
    (failed : discoverLanguage base files language = .error e) :
    ∃ place ∈ walk base files.tree language,
      place.filter (· ≠ ".") ∈ files.closed ∧ e.path = directoryPath place := by
  unfold discoverLanguage at failed
  split at failed
  · rename_i place found
    cases failed
    have closed : files.isClosed place = true := List.find?_some found
    exact ⟨place, List.mem_of_find?_eq_some found, by simpa [Files.isClosed] using closed, rfl⟩
  · cases failed

/-- The error names a directory that had to be listed and is closed. -/
theorem discover_eq_error {e : WalkError} (shown : baseNames? (Native.shown text) = some base)
    (failed : discover text files = .error e) :
    ∃ place, Walked files.tree base place ∧ place.filter (· ≠ ".") ∈ files.closed ∧
      e.path = directoryPath place := by
  have ended : ∃ language, discoverLanguage base files language = .error e := by
    rw [discover_of_shown shown] at failed
    split at failed
    · rename_i first
      cases failed
      exact ⟨.terraform, first⟩
    · rename_i second
      cases failed
      exact ⟨.bicep, second⟩
    · cases failed
  obtain ⟨language, failed⟩ := ended
  obtain ⟨place, member, closed, path⟩ := discoverLanguage_eq_error failed
  exact ⟨place, mem_walk.mp ⟨language, member⟩, closed, path⟩

theorem discover_of_lost (files : Files) (lost : baseNames? (Native.shown text) = none) :
    ¬ Blocked text files ∧ discover text files = .ok [] := by
  refine ⟨?_, by rw [discover, lost]⟩
  rintro ⟨names, place, shown, _⟩
  cases lost.symm.trans shown

theorem discover_succeeds_iff :
    (∃ paths, discover text files = .ok paths) ↔ ¬ Blocked text files := by
  cases shown : baseNames? (Native.shown text) with
  | none =>
    obtain ⟨free, found⟩ := discover_of_lost files shown
    simp [found, free]
  | some base => simp [discover_eq_ok shown]

theorem not_blocked (text : String) (tree : Entry) : ¬ Blocked text { tree } := by
  rintro ⟨names, place, _, _, closed⟩
  cases closed

end InfraLint
