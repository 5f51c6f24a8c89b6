import InfraLint.Proofs.Tree.Path
import InfraLint.Tree.Entry

/-!
Places in a tree. The entries below a directory are those that its names lead to, and a path that
is put together from names leads to the entry of these names.
-/
namespace InfraLint.Entry

/-! Properties of all entries of a tree -/

mutual

def everywhere (p : Entry → Bool) : Entry → Bool
  | file text => p (file text)
  | directory entries => p (directory entries) && everywhereOf p entries

def everywhereOf (p : Entry → Bool) : List (String × Entry) → Bool
  | [] => true
  | (_, e) :: rest => everywhere p e && everywhereOf p rest

end

def hasNames : Entry → Bool
  | file _ => true
  | directory entries =>
    decide (entries.map Prod.fst).Nodup && entries.all fun (name, _) => decide (Path.IsName name)

def isText : Entry → Bool
  | file none => false
  | _ => true

/-- Below the top, where the root of the file system may stand too, directories have names that
can be told apart. -/
def Proper (tree : Entry) : Prop :=
  ∀ name e, tree.at? [name] = .ok e → e.everywhere hasNames = true

variable {p : Entry → Bool} {e e' : Entry} {entries : List (String × Entry)}
  {name : String} {ns : List String}

theorem everywhere_here (all : e.everywhere p = true) : p e = true := by
  cases e with
  | file text => exact all
  | directory entries => exact (Bool.and_eq_true_iff.mp all).1

theorem everywhereOf_iff :
    everywhereOf p entries = true ↔ ∀ pair ∈ entries, pair.2.everywhere p = true := by
  induction entries with
  | nil => simp [everywhereOf]
  | cons pair rest ih => simp [everywhereOf, ih]

theorem at?_eq_ok_cons : e.at? (name :: ns) = .ok e' ↔
    ∃ entries child, e = directory entries ∧ List.lookup name entries = some child ∧
      child.at? ns = .ok e' := by
  cases e with
  | file text => simp [at?]
  | directory entries =>
    cases found : List.lookup name entries <;> simp [at?, found]

theorem at?_append {ms : List String} :
    e.at? (ns ++ ms) = .ok e' ↔ ∃ middle, e.at? ns = .ok middle ∧ middle.at? ms = .ok e' := by
  induction ns generalizing e with
  | nil => simp [at?]
  | cons n ns ih =>
    simp only [List.cons_append, at?_eq_ok_cons, ih]
    constructor
    · rintro ⟨entries, child, rfl, found, middle, front, behind⟩
      exact ⟨middle, ⟨entries, child, rfl, found, front⟩, behind⟩
    · rintro ⟨middle, ⟨entries, child, rfl, found, front⟩, behind⟩
      exact ⟨entries, child, rfl, found, middle, front, behind⟩

theorem mem_of_lookup (found : List.lookup name entries = some e) : (name, e) ∈ entries := by
  obtain ⟨before, after, rfl, _⟩ := List.lookup_eq_some_iff.mp found
  simp

theorem lookup_of_mem (distinct : (entries.map Prod.fst).Nodup) (member : (name, e) ∈ entries) :
    List.lookup name entries = some e := by
  obtain ⟨before, after, rfl⟩ := List.append_of_mem member
  refine List.lookup_eq_some_iff.mpr ⟨before, after, rfl, ?_⟩
  intro pair earlier
  rw [List.map_append, List.map_cons, List.nodup_append] at distinct
  have differs := distinct.2.2 pair.1 (List.mem_map_of_mem earlier) name (by simp)
  simpa using differs.symm

theorem everywhere_at? (all : e.everywhere p = true) (place : e.at? ns = .ok e') :
    e'.everywhere p = true := by
  induction ns generalizing e with
  | nil =>
    obtain rfl : e = e' := by simpa [at?] using place
    exact all
  | cons n ns ih =>
    obtain ⟨entries, child, rfl, found, behind⟩ := at?_eq_ok_cons.mp place
    have children := everywhereOf_iff.mp (Bool.and_eq_true_iff.mp all).2
    exact ih (children _ (mem_of_lookup found)) behind

theorem isName_of_at? (names : e.everywhere hasNames = true) (place : e.at? ns = .ok e') :
    ∀ n ∈ ns, Path.IsName n := by
  induction ns generalizing e with
  | nil => simp
  | cons n ns ih =>
    obtain ⟨entries, child, rfl, found, behind⟩ := at?_eq_ok_cons.mp place
    have here := (Bool.and_eq_true_iff.mp (everywhere_here names)).2
    have first : Path.IsName n := by
      simpa using List.all_eq_true.mp here _ (mem_of_lookup found)
    have step : (directory entries).at? [n] = .ok child :=
      at?_eq_ok_cons.mpr ⟨entries, child, rfl, found, rfl⟩
    exact List.forall_mem_cons.mpr ⟨first, ih (everywhere_at? names step) behind⟩

/-! What is below a directory -/

theorem mem_descendantsOf : ns ∈ descendantsOf entries ↔
    ∃ name child rest, (name, child) ∈ entries ∧ ns = name :: rest ∧
      (rest = [] ∨ rest ∈ child.descendants) := by
  induction entries with
  | nil => simp [descendantsOf]
  | cons pair entries ih =>
    obtain ⟨first, e⟩ := pair
    simp only [descendantsOf, List.mem_append, List.mem_cons, List.mem_map, ih, Prod.mk.injEq]
    constructor
    · rintro ((rfl | ⟨rest, below, rfl⟩) | ⟨name, child, rest, member, rfl, shape⟩)
      · exact ⟨first, e, [], Or.inl ⟨rfl, rfl⟩, rfl, Or.inl rfl⟩
      · exact ⟨first, e, rest, Or.inl ⟨rfl, rfl⟩, rfl, Or.inr below⟩
      · exact ⟨name, child, rest, Or.inr member, rfl, shape⟩
    · rintro ⟨name, child, rest, ⟨rfl, rfl⟩ | member, rfl, shape⟩
      · rcases shape with rfl | below
        · exact Or.inl (Or.inl rfl)
        · exact Or.inl (Or.inr ⟨rest, below, rfl⟩)
      · exact Or.inr ⟨name, child, rest, member, rfl, shape⟩

theorem mem_descendants (names : e.everywhere hasNames = true) :
    ns ∈ e.descendants ↔ ns ≠ [] ∧ ∃ e', e.at? ns = .ok e' := by
  induction ns generalizing e with
  | nil =>
    cases e with
    | file text => simp [descendants]
    | directory entries => simp [descendants, mem_descendantsOf]
  | cons n ns ih =>
    cases e with
    | file text => simp [descendants, at?]
    | directory entries =>
      have distinct : (entries.map Prod.fst).Nodup := by
        simpa using (Bool.and_eq_true_iff.mp (everywhere_here names)).1
      have children := everywhereOf_iff.mp (Bool.and_eq_true_iff.mp names).2
      simp only [descendants, mem_descendantsOf, at?_eq_ok_cons, directory.injEq, ne_eq,
        reduceCtorEq, not_false_eq_true, true_and]
      constructor
      · rintro ⟨_, child, _, member, split, shape⟩
        obtain ⟨rfl, rfl⟩ := List.cons.inj split
        have found := lookup_of_mem distinct member
        rcases shape with rfl | below
        · exact ⟨child, entries, child, rfl, found, rfl⟩
        · obtain ⟨_, e', place⟩ := (ih (children _ member)).mp below
          exact ⟨e', entries, child, rfl, found, place⟩
      · rintro ⟨e', _, child, rfl, found, place⟩
        have member := mem_of_lookup found
        refine ⟨n, child, ns, member, rfl, ?_⟩
        by_cases done : ns = []
        · exact Or.inl done
        · exact Or.inr ((ih (children _ member)).mpr ⟨done, e', place⟩)

/-! Paths of places -/

variable {tree : Entry}

/-- A path put together from names leads to the entry at the end of them. -/
theorem find_join (joinable : Path.Joinable (ns ++ [name])) (isName : Path.IsName name)
    (place : tree.at? (ns.filter (· ≠ ".") ++ [name]) = .ok e) :
    tree.find (Path.join (ns ++ [name])) = .ok e := by
  have path : Path.join (ns ++ [name]) ≠ "" := by
    intro empty
    have last := Path.getLast?_segments_join joinable isName
    rw [empty] at last
    exact isName.some (String.toList_eq_nil_iff.mp (by simpa [Path.segments] using last.symm))
  have names : Path.names (Path.join (ns ++ [name])) = ns.filter (· ≠ ".") ++ [name] := by
    rw [Path.names_join (by simp) joinable]
    simp [isName.noDot]
  simp only [find, path, if_false, names, place, Path.asksForDirectory_join joinable isName,
    Bool.false_eq_true]
  cases e <;> rfl

end InfraLint.Entry
