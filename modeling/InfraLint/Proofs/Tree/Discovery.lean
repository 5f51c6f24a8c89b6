import InfraLint.Proofs.Tree.Places
import InfraLint.Tree.Discovery

/-!
What is discovered. Below the directory of a language, exactly the entries whose name ends in its
extension are found, and the paths given back lead to them.
-/
namespace InfraLint
open Source

variable {base : String} {names place : List String} {language : Language} {name path : String}
  {tree e : Entry}

theorem Path.shows_segment {s : List Char} (member : name ∈ (segments s).map String.ofList)
    (some : name ≠ "") : Shows name := by
  obtain ⟨segment, inside, rfl⟩ := List.mem_map.mp member
  refine ⟨some, ?_⟩
  rw [String.toList_ofList]
  exact solid_of_mem_segments inside

theorem joinable_base (shown : baseNames? base = some names) {more : List String}
    (moreShow : ∀ n ∈ more, Path.Shows n) : Path.Joinable (names ++ more) := by
  have filtered {rest : List String} (part : ∀ n ∈ rest,
      n ∈ (Path.segments base.toList).map String.ofList) :
      ∀ n ∈ rest.filter (· ≠ "") ++ more, Path.Shows n := by
    intro n member
    rcases List.mem_append.mp member with inBase | inMore
    · obtain ⟨inRest, some⟩ := List.mem_filter.mp inBase
      exact Path.shows_segment (part n inRest) (by simpa using some)
    · exact moreShow n inMore
  have dropped : ∀ n ∈ ((Path.segments base.toList).map String.ofList).dropWhile (· = "."),
      n ∈ (Path.segments base.toList).map String.ofList :=
    fun n member => (List.dropWhile_sublist _).subset member
  simp only [baseNames?] at shown
  split at shown
  · rename_i rest split
    split at shown
    · cases shown
    · obtain rfl := Option.some.inj shown
      refine .absolute (filtered fun n member => dropped n ?_)
      rw [split]
      exact List.mem_cons_of_mem "" member
  · obtain rfl := Option.some.inj shown
    exact .relative (filtered dropped)

theorem Entry.Proper.everywhere (proper : tree.Proper) (some : place ≠ [])
    (leads : tree.at? place = .ok e) : e.everywhere hasNames = true := by
  cases place with
  | nil => exact absurd rfl some
  | cons n place =>
    obtain ⟨entries, child, rfl, found, behind⟩ := Entry.at?_eq_ok_cons.mp leads
    have step : (Entry.directory entries).at? [n] = .ok child :=
      Entry.at?_eq_ok_cons.mpr ⟨entries, child, rfl, found, rfl⟩
    exact Entry.everywhere_at? (proper n child step) behind

theorem root_ne_nil (language : Language) : language.root ≠ [] := by
  cases language <;> simp [Language.root]

theorem root_isName (language : Language) : ∀ n ∈ language.root, Path.IsName n := by
  cases language <;> decide

theorem isSourceName_iff_suffix : isSourceName language name = true ↔
    Native.isUtf8 name = true ∧ '.' :: language.extension.toList <:+ name.toList := by
  rw [isSourceName, Bool.and_eq_true_iff, List.isSuffixOf_iff_suffix]

theorem mem_sourcesBelow : path ∈ sourcesBelow names tree language ↔
    ∃ directory place, tree.at? (names.filter (· ≠ ".") ++ language.root) = .ok directory ∧
      place ∈ directory.descendants ∧ place.getLast?.any (isSourceName language) = true ∧
        path = Path.join (names ++ language.root ++ place) := by
  unfold sourcesBelow
  cases tree.at? (names.filter (· ≠ ".") ++ language.root) with
  | error cause => simp
  | ok directory =>
    simp only [List.mem_map, List.mem_filter, Except.ok.injEq]
    constructor
    · rintro ⟨place, ⟨below, source⟩, rfl⟩
      exact ⟨directory, place, rfl, below, source, rfl⟩
    · rintro ⟨_, place, rfl, below, source, rfl⟩
      exact ⟨place, ⟨below, source⟩, rfl⟩

theorem mem_sourcesBelow_proper (proper : tree.Proper) :
    path ∈ sourcesBelow names tree language ↔ ∃ place name e,
      tree.at? (names.filter (· ≠ ".") ++ language.root ++ (place ++ [name])) = .ok e ∧
        isSourceName language name = true ∧
          path = Path.join (names ++ language.root ++ (place ++ [name])) := by
  rw [mem_sourcesBelow]
  constructor
  · rintro ⟨directory, all, leads, below, source, rfl⟩
    have inside := proper.everywhere (by simp [root_ne_nil]) leads
    obtain ⟨some, e, further⟩ := (Entry.mem_descendants inside).mp below
    obtain ⟨place, name, rfl⟩ := (List.eq_nil_or_concat all).resolve_left some
    rw [List.concat_eq_append] at further source ⊢
    exact ⟨place, name, e, Entry.at?_append.mpr ⟨directory, leads, further⟩,
      by simpa using source, rfl⟩
  · rintro ⟨place, name, e, leads, source, rfl⟩
    obtain ⟨directory, leads, further⟩ := Entry.at?_append.mp leads
    have inside := proper.everywhere (by simp [root_ne_nil]) leads
    exact ⟨directory, place ++ [name], leads,
      (Entry.mem_descendants inside).mpr ⟨by simp, e, further⟩, by simpa using source, rfl⟩

/-- In a proper tree, the sources in both languages are the places below the directory of a language
where an entry has the extension of the language. -/
theorem mem_sources_proper (proper : tree.Proper) :
    path ∈ sourcesBelow names tree .terraform ++ sourcesBelow names tree .bicep ↔
      ∃ language place name e,
        tree.at? (names.filter (· ≠ ".") ++ language.root ++ (place ++ [name])) = .ok e ∧
          isSourceName language name = true ∧
            path = Path.join (names ++ language.root ++ (place ++ [name])) := by
  simp only [← mem_sourcesBelow_proper proper, List.mem_append]
  constructor
  · rintro (terraform | bicep)
    · exact ⟨.terraform, terraform⟩
    · exact ⟨.bicep, bicep⟩
  · rintro ⟨language, found⟩
    cases language with
    | terraform => exact Or.inl found
    | bicep => exact Or.inr found

theorem isName_discovered (proper : tree.Proper)
    (leads : tree.at? (names.filter (· ≠ ".") ++ language.root ++ place) = .ok e) :
    ∀ n ∈ place, Path.IsName n := by
  obtain ⟨directory, front, behind⟩ := Entry.at?_append.mp leads
  exact Entry.isName_of_at? (proper.everywhere (by simp [root_ne_nil]) front) behind

theorem joinable_discovered (proper : tree.Proper) (shown : baseNames? base = some names)
    (leads : tree.at? (names.filter (· ≠ ".") ++ language.root ++ place) = .ok e) :
    Path.Joinable (names ++ language.root ++ place) := by
  rw [List.append_assoc]
  refine joinable_base shown fun n member => ?_
  rcases List.mem_append.mp member with inRoot | inPlace
  · exact (root_isName language n inRoot).toShows
  · exact (isName_discovered proper leads n inPlace).toShows

theorem filter_discovered (isName : ∀ n ∈ place, Path.IsName n) :
    (names ++ language.root ++ place).filter (· ≠ ".") =
      names.filter (· ≠ ".") ++ language.root ++ place := by
  rw [List.filter_append, List.filter_append]
  congr 1
  · congr 1
    exact List.filter_eq_self.mpr fun n member => by
      simpa using (root_isName language n member).noDot
  · exact List.filter_eq_self.mpr fun n member => by simpa using (isName n member).noDot

theorem names_discovered (proper : tree.Proper) (shown : baseNames? base = some names)
    (leads : tree.at? (names.filter (· ≠ ".") ++ language.root ++ place) = .ok e) :
    Path.names (Path.join (names ++ language.root ++ place)) =
      names.filter (· ≠ ".") ++ language.root ++ place := by
  rw [Path.names_join (by simp [root_ne_nil]) (joinable_discovered proper shown leads),
    filter_discovered (isName_discovered proper leads)]

theorem find_discovered (proper : tree.Proper) (shown : baseNames? base = some names)
    (leads : tree.at? (names.filter (· ≠ ".") ++ language.root ++ (place ++ [name])) = .ok e) :
    tree.find (Path.join (names ++ language.root ++ (place ++ [name]))) = .ok e := by
  have joinable := joinable_discovered proper shown leads
  have isName := isName_discovered proper leads
  have kept : (names ++ language.root ++ place).filter (· ≠ ".") =
      names.filter (· ≠ ".") ++ language.root ++ place :=
    filter_discovered fun n member => isName n (List.mem_append_left _ member)
  rw [← List.append_assoc] at joinable leads ⊢
  exact Entry.find_join joinable (isName name (by simp)) (kept ▸ leads)

end InfraLint
