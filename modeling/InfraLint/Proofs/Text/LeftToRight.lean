import InfraLint.Text.Search

/-!
Searching a text from left to right. `Scan` states what a search finds without saying how it is
carried out; `findAll` is shown to be that search for every recogniser that takes what it reads
from the front of the text and always reads something. `First` does the same for the first find.
-/
namespace InfraLint.Text

variable {α : Type} {p : List Char → Option (α × List Char)}
  {starts : List Char → α → List Char → Prop}

/- A find is left behind as a whole. A place is passed only when nothing starts there, so no
   find can be skipped and no two can overlap. -/
inductive Scan (starts : List Char → α → List Char → Prop) : List Char → List α → Prop where
  | done : Scan starts [] []
  | found {s rest : List Char} {a : α} {finds : List α} (start : starts s a rest)
      (behind : Scan starts rest finds) : Scan starts s (a :: finds)
  | passed {c : Char} {s : List Char} {finds : List α}
      (nothing : ∀ a rest, ¬ starts (c :: s) a rest)
      (behind : Scan starts s finds) : Scan starts (c :: s) finds

def Consumes (starts : List Char → α → List Char → Prop) : Prop :=
  ∀ s a rest, starts s a rest → ∃ c read, s = c :: (read ++ rest)

def Unique (starts : List Char → α → List Char → Prop) : Prop :=
  ∀ s a b rest rest', starts s a rest → starts s b rest' → a = b ∧ rest = rest'

theorem scan_append {front s : List Char} {finds : List α}
    (silent : ∀ u v, front = u ++ v → v ≠ [] → ∀ a rest, ¬ starts (v ++ s) a rest)
    (behind : Scan starts s finds) : Scan starts (front ++ s) finds := by
  induction front with
  | nil => exact behind
  | cons c front ih =>
    refine .passed (silent [] (c :: front) rfl (by simp)) (ih ?_)
    intro u v split
    exact silent (c :: u) v (by rw [split, List.cons_append])

theorem starts_of_mem {s : List Char} {finds : List α} (scan : Scan starts s finds) {a : α}
    (member : a ∈ finds) : ∃ t rest, starts t a rest := by
  induction scan with
  | done => cases member
  | @found s rest b finds start behind ih =>
    rcases List.mem_cons.mp member with rfl | later
    · exact ⟨s, rest, start⟩
    · exact ih later
  | passed nothing behind ih => exact ih member

theorem findAll_nil : findAll p [] = [] := rfl

theorem findAll_cons_none {c : Char} {s : List Char} (h : p (c :: s) = none) :
    findAll p (c :: s) = findAll p s := by
  simp only [findAll, findAllFrom, h]

theorem findAll_of_scan (reads : ∀ s a rest, p s = some (a, rest) ↔ starts s a rest)
    (consumes : Consumes starts) {s : List Char} {finds : List α}
    (scan : Scan starts s finds) : findAll p s = finds := by
  induction scan with
  | done => exact findAll_nil
  | @found s rest a finds start behind ih =>
    obtain ⟨c, read, rfl⟩ := consumes s a rest start
    rw [findAll_cons_some ((reads _ _ _).mpr start) rfl, ih]
  | @passed c s finds nothing behind ih =>
    have none : p (c :: s) = none := by
      cases h : p (c :: s) with
      | none => rfl
      | some pair => exact absurd ((reads _ _ _).mp h) (nothing pair.1 pair.2)
    rw [findAll_cons_none none, ih]

theorem scan_findAll (reads : ∀ s a rest, p s = some (a, rest) ↔ starts s a rest)
    (consumes : Consumes starts) (s : List Char) : Scan starts s (findAll p s) := by
  induction h : s.length using Nat.strongRecOn generalizing s with
  | ind n ih =>
    cases s with
    | nil => exact Scan.done
    | cons c s =>
      cases taken : p (c :: s) with
      | none =>
        rw [findAll_cons_none taken]
        refine Scan.passed ?_ (ih s.length (by simp at h; omega) s rfl)
        intro a rest start
        have some := (reads _ _ _).mpr start
        simp [taken] at some
      | some pair =>
        obtain ⟨a, rest⟩ := pair
        have start := (reads _ _ _).mp taken
        obtain ⟨d, read, split⟩ := consumes _ _ _ start
        obtain ⟨rfl, rfl⟩ := List.cons.inj split
        rw [findAll_cons_some taken rfl]
        exact Scan.found start (ih rest.length (by simp at h; omega) rest rfl)

theorem scan_iff_findAll (reads : ∀ s a rest, p s = some (a, rest) ↔ starts s a rest)
    (consumes : Consumes starts) (s : List Char) (finds : List α) :
    Scan starts s finds ↔ findAll p s = finds := by
  constructor
  · exact findAll_of_scan reads consumes
  · intro same
    subst same
    exact scan_findAll reads consumes s

/-- A scan has no choice where what starts at a place has none. -/
theorem scan_unique (consumes : Consumes starts) (unique : Unique starts) {s : List Char}
    {finds finds' : List α} (scan : Scan starts s finds) (scan' : Scan starts s finds') :
    finds = finds' := by
  have nothing (a : α) (rest : List Char) : ¬ starts [] a rest := by
    intro start
    obtain ⟨c, read, split⟩ := consumes _ _ _ start
    cases split
  induction scan generalizing finds' with
  | done =>
    cases scan' with
    | done => rfl
    | found start behind => exact absurd start (nothing _ _)
  | found start behind ih =>
    cases scan' with
    | done => exact absurd start (nothing _ _)
    | found start' behind' =>
      obtain ⟨rfl, rfl⟩ := unique _ _ _ _ _ start start'
      rw [ih behind']
    | passed nothing behind' => exact absurd start (nothing _ _)
  | passed nothing behind ih =>
    cases scan' with
    | found start' behind' => exact absurd start' (nothing _ _)
    | passed nothing' behind' => exact ih behind'

theorem occursIn_ofList (w : String) (s : List Char) :
    w.occursIn (.ofList s) = occurs w.toList s := by
  have text : (String.ofList s).toList = s := String.toList_ofList
  rw [String.occursIn, text]

/-- A word that does not have its first letter twice cannot start before its own place and reach
into it. -/
theorem no_overlap {a : Char} {w v s r : List Char} (fresh : a ∉ w) (some : v ≠ [])
    (start : v ++ a :: s = (a :: w) ++ r) : ∃ x, v = (a :: w) ++ x := by
  rcases List.append_eq_append_iff.mp start with ⟨x, key, rest⟩ | ⟨x, front, _⟩
  · cases x with
    | nil => exact ⟨[], by simpa using key.symm⟩
    | cons b x =>
      obtain ⟨rfl, _⟩ := List.cons.inj rest
      cases v with
      | nil => exact absurd rfl some
      | cons c v =>
        obtain ⟨_, rfl⟩ := List.cons.inj key
        simp at fresh
  · exact ⟨x, front⟩

theorem occurs_eq_false {w s : List Char} :
    occurs w s = false ↔ ∀ u v, s ≠ u ++ w ++ v := by
  rw [← Bool.not_eq_true, occurs_iff]
  simp

section First

variable {p : Option Char → List Char → Option α} {starts : Option Char → List Char → α → Prop}

/- The first find, and the character in front of the text. Whatever starts at a place comes before
   all that stands further on. -/
inductive First (starts : Option Char → List Char → α → Prop) :
    Option Char → List Char → α → Prop where
  | here {before : Option Char} {s : List Char} {a : α} (start : starts before s a) :
      First starts before s a
  | later {before : Option Char} {c : Char} {s : List Char} {a : α}
      (nothing : ∀ a, ¬ starts before (c :: s) a) (behind : First starts (some c) s a) :
      First starts before (c :: s) a

theorem find?_cons_none {before : Option Char} {c : Char} {s : List Char}
    (h : p before (c :: s) = none) : find? p before (c :: s) = find? p (some c) s := by
  simp only [find?, h]

theorem find?_here {before : Option Char} {s : List Char} {a : α} (h : p before s = some a) :
    find? p before s = some a := by
  cases s with
  | nil => exact h
  | cons c s => simp only [find?, h]

theorem first_iff_find? (reads : ∀ before s a, p before s = some a ↔ starts before s a)
    (before : Option Char) (s : List Char) (a : α) :
    First starts before s a ↔ find? p before s = some a := by
  constructor
  · intro first
    induction first with
    | here start => exact find?_here ((reads _ _ _).mpr start)
    | @later before c s a nothing behind ih =>
      have none : p before (c :: s) = none := by
        rw [Option.eq_none_iff_forall_ne_some]
        intro b found
        exact nothing b ((reads _ _ _).mp found)
      rw [find?_cons_none none, ih]
  · intro found
    induction s generalizing before with
    | nil => exact First.here ((reads _ _ _).mp found)
    | cons c s ih =>
      cases taken : p before (c :: s) with
      | some b =>
        rw [find?_here taken] at found
        obtain rfl := Option.some.inj found
        exact First.here ((reads _ _ _).mp taken)
      | none =>
        rw [find?_cons_none taken] at found
        refine First.later ?_ (ih (some c) found)
        intro b start
        have some := (reads _ _ _).mpr start
        simp [taken] at some

theorem getLast?_or_cons (c : Char) (s : List Char) (before : Option Char) :
    (c :: s).getLast?.or before = s.getLast?.or (some c) := by
  rw [List.getLast?_cons]
  cases s.getLast? <;> rfl

theorem first_place {before : Option Char} {s : List Char} {a : α}
    (first : First starts before s a) :
    ∃ u v, s = u ++ v ∧ starts (u.getLast?.or before) v a := by
  induction first with
  | @here before s a start => exact ⟨[], s, rfl, start⟩
  | @later before c s a nothing behind ih =>
    obtain ⟨u, v, rfl, start⟩ := ih
    exact ⟨c :: u, v, rfl, by rwa [getLast?_or_cons]⟩

theorem first_iff_place {before : Option Char} {s : List Char} {a : α} :
    First starts before s a ↔ ∃ i ≤ s.length,
      starts ((s.take i).getLast?.or before) (s.drop i) a ∧
        ∀ j < i, ∀ b, ¬ starts ((s.take j).getLast?.or before) (s.drop j) b := by
  constructor
  · intro first
    induction first with
    | here start => exact ⟨0, Nat.zero_le _, start, by simp⟩
    | @later before c s a nothing behind ih =>
      obtain ⟨i, inside, start, earlier⟩ := ih
      refine ⟨i + 1, Nat.succ_le_succ inside, ?_, ?_⟩
      · rwa [List.take_succ_cons, List.drop_succ_cons, getLast?_or_cons]
      · intro j order
        cases j with
        | zero => exact nothing
        | succ j =>
          rw [List.take_succ_cons, List.drop_succ_cons, getLast?_or_cons]
          exact earlier j (Nat.lt_of_succ_lt_succ order)
  · rintro ⟨i, inside, start, earlier⟩
    induction s generalizing before i with
    | nil =>
      obtain rfl : i = 0 := by simpa using inside
      exact .here start
    | cons c s ih =>
      cases i with
      | zero => exact .here start
      | succ i =>
        rw [List.take_succ_cons, List.drop_succ_cons, getLast?_or_cons] at start
        refine .later (earlier 0 (Nat.succ_pos i)) (ih i (Nat.le_of_succ_le_succ inside) start ?_)
        intro j order
        have nothing := earlier (j + 1) (Nat.succ_lt_succ order)
        rwa [List.take_succ_cons, List.drop_succ_cons, getLast?_or_cons] at nothing

theorem find?_append {front s : List Char} {before : Option Char}
    (misses : ∀ u v, front = u ++ v → v ≠ [] → p (u.getLast?.or before) (v ++ s) = none) :
    find? p before (front ++ s) = find? p (front.getLast?.or before) s := by
  induction front generalizing before with
  | nil => simp
  | cons c front ih =>
    have first : p before (c :: (front ++ s)) = none := misses [] (c :: front) rfl (by simp)
    rw [List.cons_append, find?_cons_none first, getLast?_or_cons]
    apply ih
    intro u v split some
    rw [← getLast?_or_cons]
    exact misses (c :: u) v (by rw [split, List.cons_append]) some

theorem none_here {before : Option Char} {s : List Char} (h : find? p before s = none) :
    p before s = none := by
  rw [Option.eq_none_iff_forall_ne_some]
  intro a here
  simp [find?_here here] at h

theorem find?_eq_none_iff {before : Option Char} {s : List Char} :
    find? p before s = none ↔ ∀ u v, s = u ++ v → p (u.getLast?.or before) v = none := by
  constructor
  · intro nothing u
    induction u generalizing s before with
    | nil =>
      intro v split
      subst split
      exact none_here nothing
    | cons c u ih =>
      intro v split
      subst split
      rw [List.cons_append, find?_cons_none (none_here nothing)] at nothing
      rw [getLast?_or_cons]
      exact ih nothing v rfl
  · intro misses
    have passed : find? p before (s ++ []) = find? p (s.getLast?.or before) [] := by
      apply find?_append
      intro u v split _
      rw [List.append_nil]
      exact misses u v split
    rw [List.append_nil] at passed
    rw [passed]
    exact misses s [] (List.append_nil s).symm

/-- What starts with a word whose first letter does not come again in it is not found in front of
its own place, unless all of that word stands there. -/
theorem find?_behind {p : List Char → Option α} {a : Char} {front s : List Char} {found : α}
    (keyed : ∀ t found, p t = some found → ∃ w r, a ∉ w ∧ t = (a :: w) ++ r ∧
      ∀ u v, front ≠ u ++ (a :: w) ++ v)
    (here : p (a :: s) = some found) :
    find? (fun _ => p) none (front ++ a :: s) = some found := by
  refine (find?_append ?_).trans (find?_here here)
  intro u v split some
  rw [Option.eq_none_iff_forall_ne_some]
  intro other taken
  obtain ⟨w, r, fresh, start, absent⟩ := keyed _ _ taken
  obtain ⟨x, rfl⟩ := no_overlap fresh some start
  exact absent u x (by rw [split, List.append_assoc])

end First
end InfraLint.Text
