import InfraLint.Proofs.Tree.Places
import Mathlib.Data.List.Lex

/-!
Trees whose directories list their names in order. Building a tree keeps the order, and walking
through a tree in order goes from each path to a later one, name by name in the order of their
bytes.
-/
namespace InfraLint

namespace Entry

def hasOrder : Entry → Bool
  | file _ => true
  | directory entries =>
    decide (entries.Pairwise fun m n => Native.bytes m.1 < Native.bytes n.1) &&
      entries.all fun (name, _) => decide (Path.IsName name)

def children : Entry → List (String × Entry)
  | file _ => []
  | directory entries => entries

/-- Directories are in order, but for the names at the top, where the root of the file system may
stand too. -/
def Ordered (tree : Entry) : Prop := ∀ pair ∈ tree.children, pair.2.everywhere hasOrder = true

instance (tree : Entry) : Decidable tree.Ordered :=
  inferInstanceAs (Decidable (∀ pair ∈ tree.children, pair.2.everywhere hasOrder = true))

/-- The trees that come about by writing files, making directories and removing entries. -/
inductive Built : Entry → Prop where
  | empty : Built .empty
  | write {tree tree' : Entry} {path : String} {text : Option String} (built : Built tree)
      (done : put? (file text) (Path.names path) tree = some tree') : Built tree'
  | mkdir {tree tree' : Entry} {path : String} (built : Built tree)
      (done : put? .empty (Path.names path) tree = some tree') : Built tree'
  | remove {tree tree' : Entry} {path : String} (built : Built tree)
      (done : remove? (Path.names path) tree = some tree') : Built tree'

variable {e e' entry tree tree' : Entry} {entries : List (String × Entry)} {name : String}
  {ns : List String}

theorem everywhere_directory {p : Entry → Bool} : (directory entries).everywhere p = true ↔
    p (directory entries) = true ∧ ∀ pair ∈ entries, pair.2.everywhere p = true := by
  rw [everywhere, Bool.and_eq_true_iff, everywhereOf_iff]

theorem hasOrder_directory : (directory entries).hasOrder = true ↔
    (entries.Pairwise fun m n => Native.bytes m.1 < Native.bytes n.1) ∧
      ∀ pair ∈ entries, Path.IsName pair.1 := by
  simp [hasOrder]

/-! Order and names -/

theorem hasNames_of_hasOrder (e : Entry) (order : e.hasOrder = true) : e.hasNames = true := by
  cases e with
  | file text => rfl
  | directory entries =>
    obtain ⟨increasing, names⟩ := hasOrder_directory.mp order
    have distinct : (entries.map Prod.fst).Nodup := by
      rw [List.Nodup, List.pairwise_map]
      refine increasing.imp fun {m n} before same => ?_
      rw [same] at before
      exact List.lt_irrefl _ before
    simpa [hasNames, distinct] using fun a b member => names (a, b) member

mutual

theorem everywhere_mono {p q : Entry → Bool} (weaker : ∀ e, p e = true → q e = true) :
    ∀ e : Entry, e.everywhere p = true → e.everywhere q = true
  | file text, all => weaker (file text) all
  | directory entries, all => by
    obtain ⟨here, below⟩ := Bool.and_eq_true_iff.mp all
    exact Bool.and_eq_true_iff.mpr ⟨weaker _ here, everywhereOf_mono weaker entries below⟩

theorem everywhereOf_mono {p q : Entry → Bool} (weaker : ∀ e, p e = true → q e = true) :
    ∀ entries : List (String × Entry), everywhereOf p entries = true →
      everywhereOf q entries = true
  | [], _ => rfl
  | (_, e) :: rest, all => by
    obtain ⟨first, others⟩ := Bool.and_eq_true_iff.mp all
    exact Bool.and_eq_true_iff.mpr
      ⟨everywhere_mono weaker e first, everywhereOf_mono weaker rest others⟩

end

theorem Ordered.at? (ordered : tree.Ordered) (some : ns ≠ []) (leads : tree.at? ns = .ok e) :
    e.everywhere hasOrder = true := by
  cases ns with
  | nil => exact absurd rfl some
  | cons n ns =>
    obtain ⟨entries, child, rfl, found, behind⟩ := at?_eq_ok_cons.mp leads
    exact everywhere_at? (ordered _ (mem_of_lookup found)) behind

theorem Ordered.proper (ordered : tree.Ordered) : tree.Proper := by
  intro name e leads
  exact everywhere_mono hasNames_of_hasOrder e (ordered.at? (by simp) leads)

/-! Building keeps the order -/

theorem mem_insert {pair : String × Entry} (member : pair ∈ insert name e entries) :
    pair = (name, e) ∨ pair ∈ entries := by
  induction entries with
  | nil => exact Or.inl (List.mem_singleton.mp member)
  | cons first entries ih =>
    simp only [insert] at member
    split at member
    · exact List.mem_cons.mp member
    · split at member
      · rcases List.mem_cons.mp member with rfl | later
        · exact Or.inl rfl
        · exact Or.inr (List.mem_cons_of_mem first later)
      · rcases List.mem_cons.mp member with rfl | later
        · exact Or.inr List.mem_cons_self
        · exact (ih later).imp_right (List.mem_cons_of_mem first)

theorem insert_increasing
    (increasing : entries.Pairwise fun m n => Native.bytes m.1 < Native.bytes n.1) :
    (insert name e entries).Pairwise fun m n => Native.bytes m.1 < Native.bytes n.1 := by
  induction entries with
  | nil => exact List.pairwise_singleton _ _
  | cons first entries ih =>
    obtain ⟨above, rest⟩ := List.pairwise_cons.mp increasing
    simp only [insert]
    split
    · rename_i before
      refine List.pairwise_cons.mpr ⟨fun pair member => ?_, increasing⟩
      rcases List.mem_cons.mp member with rfl | later
      · exact before
      · exact List.lt_trans before (above pair later)
    · rename_i notBefore
      split
      · rename_i same
        exact List.pairwise_cons.mpr ⟨fun pair later => same ▸ above pair later, rest⟩
      · rename_i other
        refine List.pairwise_cons.mpr ⟨fun pair member => ?_, ih rest⟩
        rcases mem_insert member with rfl | later
        · exact Std.lt_of_le_of_ne (List.not_lt.mp notBefore) (Ne.symm other)
        · exact above pair later

theorem everywhere_insert (all : (directory entries).everywhere hasOrder = true)
    (isName : Path.IsName name) (child : e.everywhere hasOrder = true) :
    (directory (insert name e entries)).everywhere hasOrder = true := by
  obtain ⟨here, below⟩ := everywhere_directory.mp all
  obtain ⟨increasing, names⟩ := hasOrder_directory.mp here
  refine everywhere_directory.mpr ⟨hasOrder_directory.mpr
    ⟨insert_increasing increasing, fun pair member => ?_⟩, fun pair member => ?_⟩
  · rcases mem_insert member with rfl | old
    · exact isName
    · exact names pair old
  · rcases mem_insert member with rfl | old
    · exact child
    · exact below pair old

theorem everywhere_filter (all : (directory entries).everywhere hasOrder = true)
    (keep : String × Entry → Bool) :
    (directory (entries.filter keep)).everywhere hasOrder = true := by
  obtain ⟨here, below⟩ := everywhere_directory.mp all
  obtain ⟨increasing, names⟩ := hasOrder_directory.mp here
  exact everywhere_directory.mpr ⟨hasOrder_directory.mpr ⟨increasing.filter keep,
    fun pair member => names pair (List.mem_filter.mp member).1⟩,
    fun pair member => below pair (List.mem_filter.mp member).1⟩

theorem everywhere_lookup (below : ∀ pair ∈ entries, pair.2.everywhere hasOrder = true) :
    ((List.lookup name entries).getD empty).everywhere hasOrder = true := by
  cases found : List.lookup name entries with
  | none => decide
  | some child => exact below _ (mem_of_lookup found)

theorem put?_nil (done : put? entry [] tree = some tree') :
    (∃ text, tree' = file text) ∨ tree' = tree := by
  simp only [put?] at done
  unfold replace? at done
  split at done
  · exact Or.inl ⟨_, (Option.some.inj done).symm⟩
  · exact Or.inr (Option.some.inj done).symm
  · cases done

theorem put?_cons (done : put? entry (name :: ns) tree = some tree') :
    ∃ entries child, tree = directory entries ∧
      tree' = directory (insert name child entries) ∧
      (child = entry ∨ put? entry ns ((List.lookup name entries).getD empty) = some child) := by
  cases tree with
  | file text => simp [put?] at done
  | directory entries =>
    refine ⟨entries, ?_⟩
    unfold put? at done
    split at done
    · exact ⟨entry, rfl, (Option.some.inj done).symm, Or.inl rfl⟩
    · obtain ⟨child, put, same⟩ := Option.map_eq_some_iff.mp done
      exact ⟨child, rfl, same.symm, Or.inr put⟩

theorem remove?_cons (done : remove? (name :: ns) tree = some tree') :
    ∃ entries, tree = directory entries ∧
      (tree' = directory (entries.filter (·.1 ≠ name)) ∨ ∃ child rest,
        List.lookup name entries = some child ∧ remove? ns child = some rest ∧
          tree' = directory (insert name rest entries)) := by
  cases tree with
  | file text => simp [remove?] at done
  | directory entries =>
    refine ⟨entries, rfl, ?_⟩
    cases ns with
    | nil =>
      obtain ⟨_, _, same⟩ := Option.map_eq_some_iff.mp done
      exact Or.inl same.symm
    | cons n ns =>
      obtain ⟨child, found, behind⟩ := Option.bind_eq_some_iff.mp done
      obtain ⟨rest, removed, same⟩ := Option.bind_eq_some_iff.mp behind
      exact Or.inr ⟨child, rest, found, removed, (Option.some.inj same).symm⟩

theorem everywhere_put? (new : entry.everywhere hasOrder = true)
    (all : tree.everywhere hasOrder = true) (names : ∀ n ∈ ns, Path.IsName n)
    (done : put? entry ns tree = some tree') : tree'.everywhere hasOrder = true := by
  induction ns generalizing tree tree' with
  | nil =>
    obtain ⟨text, rfl⟩ | rfl := put?_nil done
    · rfl
    · exact all
  | cons n ns ih =>
    obtain ⟨isName, others⟩ := List.forall_mem_cons.mp names
    obtain ⟨entries, child, rfl, rfl, put⟩ := put?_cons done
    refine everywhere_insert all isName ?_
    rcases put with rfl | put
    · exact new
    · exact ih (everywhere_lookup (everywhere_directory.mp all).2) others put

theorem everywhere_remove? (all : tree.everywhere hasOrder = true)
    (names : ∀ n ∈ ns, Path.IsName n) (done : remove? ns tree = some tree') :
    tree'.everywhere hasOrder = true := by
  induction ns generalizing tree tree' with
  | nil => simp [remove?] at done
  | cons n ns ih =>
    obtain ⟨isName, others⟩ := List.forall_mem_cons.mp names
    obtain ⟨entries, rfl, rfl | ⟨child, rest, found, removed, rfl⟩⟩ := remove?_cons done
    · exact everywhere_filter all _
    · exact everywhere_insert all isName
        (ih ((everywhere_directory.mp all).2 _ (mem_of_lookup found)) others removed)

theorem isName_tail_names {path : String} (split : Path.names path = name :: ns) :
    ∀ n ∈ ns, Path.IsName n := by
  have each : ∀ n ∈ ((Path.segments path.toList).map String.ofList).filter
      (fun s => s ≠ "" && s ≠ "."), Path.IsName n := by
    intro n member
    obtain ⟨inside, kept⟩ := List.mem_filter.mp member
    have kept : n ≠ "" ∧ n ≠ "." := by simpa using kept
    obtain ⟨segment, part, rfl⟩ := List.mem_map.mp inside
    refine ⟨⟨kept.1, ?_⟩, kept.2⟩
    rw [String.toList_ofList]
    exact Path.solid_of_mem_segments part
  intro n member
  unfold Path.names at split
  split at split
  · rw [List.singleton_append] at split
    obtain ⟨_, rfl⟩ := List.cons.inj split
    exact each n member
  · rw [List.nil_append] at split
    exact each n (split ▸ List.mem_cons_of_mem name member)

theorem Ordered.put? {path : String} (ordered : tree.Ordered)
    (new : entry.everywhere hasOrder = true)
    (done : put? entry (Path.names path) tree = some tree') : tree'.Ordered := by
  cases split : Path.names path with
  | nil =>
    rw [split] at done
    obtain ⟨text, rfl⟩ | rfl := put?_nil done
    · exact List.forall_mem_nil _
    · exact ordered
  | cons n ns =>
    rw [split] at done
    obtain ⟨entries, child, rfl, rfl, put⟩ := put?_cons done
    intro pair member
    rcases mem_insert member with rfl | old
    · rcases put with rfl | put
      · exact new
      · exact everywhere_put? new (everywhere_lookup ordered) (isName_tail_names split) put
    · exact ordered pair old

theorem Ordered.remove? {path : String} (ordered : tree.Ordered)
    (done : remove? (Path.names path) tree = some tree') : tree'.Ordered := by
  cases split : Path.names path with
  | nil => simp [split, Entry.remove?] at done
  | cons n ns =>
    rw [split] at done
    obtain ⟨entries, rfl, rfl | ⟨child, rest, found, removed, rfl⟩⟩ := remove?_cons done
    · exact fun pair member => ordered pair (List.mem_filter.mp member).1
    · intro pair member
      rcases mem_insert member with rfl | old
      · exact everywhere_remove? (ordered _ (mem_of_lookup found)) (isName_tail_names split) removed
      · exact ordered pair old

theorem Built.ordered (built : tree.Built) : tree.Ordered := by
  induction built with
  | empty => decide
  | write _ done ih => exact ih.put? rfl done
  | mkdir _ done ih => exact ih.put? (by decide) done
  | remove _ done ih => exact ih.remove? done

/-! Walking in order -/

/-- One list of names is in front of another: name by name, by the bytes. -/
def Precedes (ns ms : List String) : Prop := ns.map Native.bytes < ms.map Native.bytes

theorem Precedes.of_head {n m : String} (before : Native.bytes n < Native.bytes m)
    (ns ms : List String) : Precedes (n :: ns) (m :: ms) := by
  simp only [Precedes, List.map_cons, List.cons_lt_cons_iff]
  exact Or.inl before

theorem Precedes.below (n : String) (ns : List String) (m : String) :
    Precedes [n] (n :: m :: ns) := by
  simp [Precedes]

theorem Precedes.append {ms : List String} (front : List String) (before : Precedes ns ms) :
    Precedes (front ++ ns) (front ++ ms) := by
  simp only [Precedes, List.map_append]
  exact List.append_left_lt before

theorem ne_nil_of_mem_descendants (member : ns ∈ e.descendants) : ns ≠ [] := by
  cases e with
  | file text => cases member
  | directory entries =>
    obtain ⟨_, _, _, _, rfl, _⟩ := mem_descendantsOf.mp member
    simp

mutual

theorem descendants_increasing : ∀ e : Entry, e.everywhere hasOrder = true →
    e.descendants.Pairwise Precedes
  | file _, _ => List.Pairwise.nil
  | directory entries, all => by
    obtain ⟨here, below⟩ := Bool.and_eq_true_iff.mp all
    exact descendantsOf_increasing entries (hasOrder_directory.mp here).1 below

theorem descendantsOf_increasing : ∀ entries : List (String × Entry),
    (entries.Pairwise fun m n => Native.bytes m.1 < Native.bytes n.1) →
      everywhereOf hasOrder entries = true →
      (descendantsOf entries).Pairwise Precedes
  | [], _, _ => List.Pairwise.nil
  | (name, e) :: rest, increasing, all => by
    obtain ⟨above, others⟩ := List.pairwise_cons.mp increasing
    obtain ⟨first, behind⟩ := Bool.and_eq_true_iff.mp all
    have later : ∀ ns ∈ descendantsOf rest, ∀ ms, Precedes (name :: ms) ns := by
      intro ns member ms
      obtain ⟨n, child, tail, pair, rfl, _⟩ := mem_descendantsOf.mp member
      exact .of_head (above _ pair) ms tail
    rw [descendantsOf, List.cons_append, List.pairwise_cons, List.pairwise_append,
      List.pairwise_map]
    refine ⟨fun ns member => ?_, ?_, descendantsOf_increasing rest others behind, ?_⟩
    · rcases List.mem_append.mp member with below | after
      · obtain ⟨ms, inside, rfl⟩ := List.mem_map.mp below
        obtain ⟨m, ms, rfl⟩ := List.exists_cons_of_ne_nil (ne_nil_of_mem_descendants inside)
        exact .below name ms m
      · exact later ns after []
    · exact (descendants_increasing e first).imp fun before => before.append [name]
    · intro ns below ms after
      obtain ⟨tail, _, rfl⟩ := List.mem_map.mp below
      exact later ms after tail

end

end Entry
end InfraLint
