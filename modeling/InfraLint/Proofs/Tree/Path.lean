import InfraLint.Proofs.Text.Until
import InfraLint.Tree.Path

/-!
Paths that are put together from names. Taking such a path apart gives the names again, but for
dots in the middle, which lead nowhere.
-/
namespace InfraLint.Path

structure Shows (name : String) : Prop where
  some : name ≠ ""
  solid : '/' ∉ name.toList

structure IsName (name : String) : Prop extends Shows name where
  noDot : name ≠ "."

instance (name : String) : Decidable (IsName name) :=
  decidable_of_iff (name ≠ "" ∧ '/' ∉ name.toList ∧ name ≠ ".")
    ⟨fun h => ⟨⟨h.1, h.2.1⟩, h.2.2⟩, fun h => ⟨h.some, h.solid, h.noDot⟩⟩

theorem segments_solid {s : List Char} (solid : '/' ∉ s) : segments s = [s] := by
  induction s with
  | nil => rfl
  | cons c s ih =>
    simp only [List.mem_cons, not_or] at solid
    simp only [segments, Ne.symm solid.1, if_false, ih solid.2]

theorem segments_ne_nil (s : List Char) : segments s ≠ [] := by
  cases s with
  | nil => simp [segments]
  | cons c s =>
    simp only [segments]
    split
    · simp
    · split <;> simp

theorem segments_slash (s t : List Char) : segments (s ++ '/' :: t) = segments s ++ segments t := by
  induction s with
  | nil => simp [segments]
  | cons c s ih =>
    simp only [List.cons_append, segments, ih]
    split
    · rfl
    · obtain ⟨first, rest, split⟩ := List.exists_cons_of_ne_nil (segments_ne_nil s)
      rw [split]
      rfl

theorem segments_append {s t : List Char} (solid : '/' ∉ s) :
    segments (s ++ '/' :: t) = s :: segments t := by
  rw [segments_slash, segments_solid solid, List.singleton_append]

theorem solid_of_mem_segments {s segment : List Char} (member : segment ∈ segments s) :
    '/' ∉ segment := by
  induction s generalizing segment with
  | nil => simp_all [segments]
  | cons c s ih =>
    simp only [segments] at member
    split at member
    · rcases List.mem_cons.mp member with rfl | later
      · simp
      · exact ih later
    · rename_i noSlash
      split at member
      · obtain rfl := List.mem_singleton.mp member
        simpa using Ne.symm noSlash
      · rename_i first rest split
        rw [split] at ih
        rcases List.mem_cons.mp member with rfl | later
        · simp only [List.mem_cons, not_or]
          exact ⟨Ne.symm noSlash, ih (by simp)⟩
        · exact ih (List.mem_cons_of_mem first later)

theorem segments_intercalate {parts : List (List Char)} (some : parts ≠ [])
    (solid : ∀ part ∈ parts, '/' ∉ part) : segments (['/'].intercalate parts) = parts := by
  induction parts with
  | nil => exact absurd rfl some
  | cons part parts ih =>
    obtain ⟨first, others⟩ := List.forall_mem_cons.mp solid
    cases parts with
    | nil => rw [List.intercalate_singleton, segments_solid first]
    | cons next parts =>
      rw [List.intercalate_cons_cons, List.append_assoc, List.singleton_append,
        segments_append first, ih (by simp) others]

variable {ns : List String} {name : String}

theorem segments_joined (some : ns ≠ []) (shown : ∀ n ∈ ns, Shows n) :
    segments ("/".intercalate ns).toList = ns.map String.toList := by
  have slash : "/".toList = ['/'] := rfl
  rw [String.toList_intercalate, slash, segments_intercalate]
  · simpa using some
  · intro part member
    obtain ⟨n, isName, rfl⟩ := List.mem_map.mp member
    exact (shown n isName).solid

theorem ofList_toList (ns : List String) :
    (ns.map String.toList).map String.ofList = ns := by
  simp [Function.comp_def]

/-- Names that show make a path, with the root in front of them or not. -/
inductive Joinable : List String → Prop where
  | relative {ns : List String} (shown : ∀ n ∈ ns, Shows n) : Joinable ns
  | absolute {ns : List String} (shown : ∀ n ∈ ns, Shows n) : Joinable ("/" :: ns)

theorem join_relative (shown : ∀ n ∈ ns, Shows n) : join ns = "/".intercalate ns := by
  unfold join
  split
  · rename_i names
    exact absurd (shown "/" (by simp)).solid (by simp)
  · rfl

theorem join_absolute (ns : List String) : join ("/" :: ns) = "/" ++ "/".intercalate ns := rfl

theorem isAbsolute_iff {path : String} : isAbsolute path = true ↔ path.toList.head? = some '/' := by
  have slash : "/".toList = ['/'] := rfl
  rw [isAbsolute, String.isPrefixOf, String.startsWith_string_iff, slash]
  cases path.toList <;> simp [eq_comm]

theorem isAbsolute_relative (some : ns ≠ []) (shown : ∀ n ∈ ns, Shows n) :
    isAbsolute ("/".intercalate ns) = false := by
  rw [← Bool.not_eq_true, isAbsolute_iff]
  intro slash
  have split := segments_joined some shown
  cases path : ("/".intercalate ns).toList with
  | nil => simp [path] at slash
  | cons c s =>
    obtain rfl : c = '/' := by simpa [path] using slash
    rw [path] at split
    cases ns with
    | nil => exact some rfl
    | cons n ns =>
      have empty : [] = n.toList := by simpa [segments] using congrArg List.head? split
      exact (shown n (by simp)).some (String.toList_eq_nil_iff.mp empty.symm)

theorem segments_absolute (some : ns ≠ []) (shown : ∀ n ∈ ns, Shows n) :
    segments (join ("/" :: ns)).toList = [] :: ns.map String.toList := by
  have slash : "/".toList = ['/'] := rfl
  rw [join_absolute, String.toList_append, slash, List.singleton_append]
  simp only [segments, if_true, segments_joined some shown]

theorem filter_shown (shown : ∀ n ∈ ns, Shows n) :
    (ns.filter fun n => n ≠ "" && n ≠ ".") = ns.filter (· ≠ ".") := by
  apply List.filter_congr
  intro n member
  simp [(shown n member).some]

theorem isAbsolute_absolute (ns : List String) : isAbsolute (join ("/" :: ns)) = true := by
  have slash : "/".toList = ['/'] := rfl
  rw [isAbsolute_iff, join_absolute, String.toList_append, slash]
  rfl

/-- The names along a path that is put together from names. -/
theorem names_join (some : ns ≠ []) (joinable : Joinable ns) :
    names (join ns) = ns.filter (· ≠ ".") := by
  cases joinable with
  | relative shown =>
    rw [names, join_relative shown, isAbsolute_relative some shown, segments_joined some shown,
      ofList_toList, ← filter_shown shown]
    simp
  | @absolute rest shown =>
    cases rest with
    | nil =>
      have root : join ["/"] = "/" := rfl
      rw [root]
      decide +kernel
    | cons n rest =>
      have root : ("/" :: n :: rest).filter (· ≠ ".") = "/" :: (n :: rest).filter (· ≠ ".") :=
        List.filter_cons_of_pos (by decide)
      rw [names, isAbsolute_absolute, segments_absolute (by simp) shown, List.map_cons,
        ofList_toList, List.filter_cons_of_neg (by simp), filter_shown shown, root]
      rfl

theorem getLast?_segments_join (joinable : Joinable (ns ++ [name])) (isName : IsName name) :
    (segments (join (ns ++ [name])).toList).getLast? = some name.toList := by
  generalize whole : ns ++ [name] = all at joinable
  have last : all.getLast? = some name := by simp [← whole]
  cases joinable with
  | relative shown =>
    have some : all ≠ [] := by simp [← whole]
    rw [join_relative shown, segments_joined some shown, List.getLast?_map, last, Option.map_some]
  | @absolute rest shown =>
    cases rest with
    | nil =>
      obtain rfl : "/" = name := by simpa using last
      exact absurd isName.solid (by simp)
    | cons n rest =>
      have behind : (n :: rest).getLast? = some name := by simpa using last
      rw [segments_absolute (by simp) shown, List.getLast?_cons, List.getLast?_map, behind]
      rfl

theorem asksForDirectory_join (joinable : Joinable (ns ++ [name])) (isName : IsName name) :
    asksForDirectory (join (ns ++ [name])) = false := by
  have some : name.toList ≠ [] := mt String.toList_eq_nil_iff.mp isName.some
  have noDot : name.toList ≠ ['.'] := fun same => isName.noDot (String.toList_inj.mp same)
  simp only [asksForDirectory, getLast?_segments_join joinable isName, some, noDot,
    decide_false, Bool.or_false]

theorem fileName?_join (joinable : Joinable (ns ++ [name])) (isName : IsName name)
    (notAbove : name ≠ "..") : fileName? (join (ns ++ [name])) = some name := by
  have noRoot : name ≠ "/" := by
    intro same
    subst same
    exact isName.solid (by simp)
  have kept : (ns ++ [name]).filter (· ≠ ".") = ns.filter (· ≠ ".") ++ [name] := by
    simp [isName.noDot]
  rw [fileName?, names_join (by simp) joinable, kept]
  simp [noRoot, notAbove]

theorem extension?_join {stem extension : List Char} (joinable : Joinable (ns ++ [name]))
    (isName : IsName name) (notAbove : name ≠ "..")
    (split : name.toList = stem ++ '.' :: extension) (fresh : '.' ∉ extension) :
    extension? (join (ns ++ [name])) =
      if stem = [] then none else some (.ofList extension) := by
  have reversed : name.toList.reverse = extension.reverse ++ '.' :: stem.reverse := by
    simp [split]
  have freshToo : '.' ∉ extension.reverse := by simpa using fresh
  have point : (fun c : Char => decide (c ≠ '.')) = (· != '.') := by
    funext c
    simp [bne, Bool.beq_eq_decide_eq]
  simp only [extension?, fileName?_join joinable isName notAbove, Option.bind_eq_bind,
    Option.bind_some, reversed, point, Text.takeWhile_ne_append freshToo,
    Text.dropWhile_ne_append freshToo, List.drop_one, List.tail_cons, List.reverse_reverse,
    List.isEmpty_iff, List.reverse_eq_nil_iff]

end InfraLint.Path
