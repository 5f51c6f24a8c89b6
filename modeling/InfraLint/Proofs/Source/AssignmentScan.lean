import InfraLint.Proofs.Source.Header
import InfraLint.Proofs.Text.LeftToRight
import InfraLint.Source.Assignment

/-!
The assignments of a source text as a scan that tries every place. A run of word characters that
ends in `_name` makes an assignment at its first character or nowhere: what keeps the whole run from
making one keeps each of its ends from it. So nothing is lost by reading the text word by word.
-/
namespace InfraLint.Source
open Text

/- The run of word characters at the front of the text, all of it, is assigned the quoted value, and
   the rest begins behind the closing quote. -/
structure AssignmentStarts (s : List Char) (a : Assignment) (rest : List Char) : Prop where
  run : ∃ front, front ≠ [] ∧ s.takeWhile isWord = front ++ "_name".toList
  behind : ∃ space inner value, AllBlank space ∧ AllBlank inner ∧ Quotable '"' value ∧
    s.dropWhile isWord = space ++ '=' :: (inner ++ '"' :: (value ++ '"' :: rest)) ∧
    a = ⟨.ofList (s.takeWhile isWord), .ofList value⟩

theorem isNameVariable_iff {w : List Char} :
    isNameVariable w = true ↔ ∃ front, front ≠ [] ∧ w = front ++ "_name".toList := by
  simp only [isNameVariable, List.isSuffixOf_iff_suffix]
  cases w with
  | nil =>
    refine iff_of_false (by decide) ?_
    rintro ⟨front, _, split⟩
    simp at split
  | cons c w =>
    rw [List.drop_succ_cons, List.drop_zero]
    constructor
    · rintro ⟨front, split⟩
      exact ⟨c :: front, by simp, by rw [← split, List.cons_append]⟩
    · rintro ⟨front, some, split⟩
      obtain ⟨d, front, rfl⟩ := List.exists_cons_of_ne_nil some
      obtain ⟨_, rfl⟩ := List.cons.inj split
      exact ⟨front, rfl⟩

theorem isNameVariable_suffix {v w : List Char} (ends : v <:+ w)
    (variable_ : isNameVariable v = true) : isNameVariable w = true := by
  obtain ⟨u, rfl⟩ := ends
  obtain ⟨front, some, rfl⟩ := isNameVariable_iff.mp variable_
  exact isNameVariable_iff.mpr ⟨u ++ front, by simp [some], by rw [List.append_assoc]⟩

theorem assignedText?_eq_some {s value rest : List Char} :
    assignedText? s = some (value, rest) ↔ ∃ space inner, AllBlank space ∧ AllBlank inner ∧
      Quotable '"' value ∧ s = space ++ '=' :: (inner ++ '"' :: (value ++ '"' :: rest)) := by
  simp only [assignedText?, Option.bind_eq_bind, Option.bind_eq_some_iff, after?_eq_some,
    quoted?_eq_some, skipBlank_eq_iff]
  constructor
  · rintro ⟨_, ⟨⟨space, blank, rfl⟩, _⟩, ⟨⟨inner, blank', rfl⟩, _⟩, text⟩
    exact ⟨space, inner, blank, blank', text, by simp⟩
  · rintro ⟨space, inner, blank, blank', text, rfl⟩
    have stops (c : Char) (behind : List Char) (h : isBlank c = false) : Unblanked (c :: behind) :=
      unblanked_cons.mpr h
    exact ⟨inner ++ '"' :: (value ++ '"' :: rest),
      ⟨⟨space, blank, by simp⟩, stops _ _ (by decide)⟩,
      ⟨⟨inner, blank', by simp⟩, stops _ _ (by decide)⟩, text⟩

theorem assignmentStarts_iff {s rest : List Char} {a : Assignment} :
    AssignmentStarts s a rest ↔ isNameVariable (s.takeWhile isWord) = true ∧
      ∃ value, assignedText? (s.dropWhile isWord) = some (value, rest) ∧
        a = ⟨.ofList (s.takeWhile isWord), .ofList value⟩ := by
  simp only [isNameVariable_iff, assignedText?_eq_some]
  constructor
  · rintro ⟨run, space, inner, value, blank, blank', text, split, same⟩
    exact ⟨run, value, ⟨space, inner, blank, blank', text, split⟩, same⟩
  · rintro ⟨run, value, ⟨space, inner, blank, blank', text, split⟩, same⟩
    exact ⟨run, space, inner, value, blank, blank', text, split, same⟩

theorem assignmentStarts_consumes : Consumes AssignmentStarts := by
  rintro s a rest ⟨⟨front, some, run⟩, space, inner, value, _, _, _, behind, _⟩
  obtain ⟨c, front, rfl⟩ := List.exists_cons_of_ne_nil some
  refine ⟨c, front ++ "_name".toList ++ space ++ '=' :: inner ++ '"' :: value ++ ['"'], ?_⟩
  have split := (List.takeWhile_append_dropWhile (p := isWord) (l := s)).symm
  rw [run, behind] at split
  simpa using split

theorem assignmentStarts_unique : Unique AssignmentStarts := by
  intro s a a' rest rest' start start'
  obtain ⟨_, value, text, rfl⟩ := assignmentStarts_iff.mp start
  obtain ⟨_, value', text', rfl⟩ := assignmentStarts_iff.mp start'
  obtain ⟨rfl, rfl⟩ : value = value' ∧ rest = rest' := by simpa [text] using text'
  exact ⟨rfl, rfl⟩

/-- A run that makes no assignment makes none from any of its characters on. -/
theorem not_starts_inside {w behind : List Char} (word : Word w)
    (stop : ∀ c, behind.head? = some c → isWord c = false)
    (nothing : ∀ a rest, ¬ AssignmentStarts (w ++ behind) a rest) :
    ∀ u v, w = u ++ v → v ≠ [] → ∀ a rest, ¬ AssignmentStarts (v ++ behind) a rest := by
  rintro u v rfl _ a rest start
  have all : ∀ c ∈ v, isWord c = true := fun c member => word.2 c (by simp [member])
  obtain ⟨run, left⟩ := takeWhile_append_stop all stop
  obtain ⟨whole, left'⟩ := takeWhile_append_stop word.2 stop
  obtain ⟨name, value, text, _⟩ := assignmentStarts_iff.mp start
  rw [run] at name
  rw [left] at text
  refine nothing ⟨.ofList (u ++ v), .ofList value⟩ rest (assignmentStarts_iff.mpr ?_)
  rw [whole, left']
  exact ⟨isNameVariable_suffix (List.suffix_append u v) name, value, text, rfl⟩

theorem word?_run {s w behind : List Char} (h : word? s = some (w, behind)) :
    s.takeWhile isWord = w ∧ s.dropWhile isWord = behind := by
  unfold word? at h
  split at h
  · cases h
  · simpa using h

theorem word?_stops {s w behind : List Char} (h : word? s = some (w, behind)) :
    ∀ c, behind.head? = some c → isWord c = false := by
  intro c head
  have stop := List.head?_dropWhile_not isWord s
  rw [(word?_run h).2, head] at stop
  exact stop

/- What the reader makes of a word: the assignment that starts there, or nothing. -/
theorem wordOrAssignment?_word {s w behind : List Char} (h : word? s = some (w, behind)) :
    (∃ a rest, wordOrAssignment? s = some (some a, rest) ∧ AssignmentStarts s a rest) ∨
      (wordOrAssignment? s = some (none, behind) ∧ ∀ a rest, ¬ AssignmentStarts s a rest) := by
  obtain ⟨run, left⟩ := word?_run h
  simp only [wordOrAssignment?, h, assignmentStarts_iff, run, left, Option.bind_eq_bind,
    Option.bind_some]
  cases text : assignedText? behind with
  | none => exact .inr ⟨rfl, by simp⟩
  | some pair =>
    obtain ⟨value, rest⟩ := pair
    cases name : isNameVariable w with
    | false => exact .inr ⟨rfl, by simp⟩
    | true => exact .inl ⟨_, rest, rfl, rfl, value, rfl, rfl⟩

/- By induction on the length of the text. A word is left behind as a whole, with its assignment or
   without one; a character that is in no word starts nothing. -/
theorem scan_assignments (s : List Char) :
    Scan AssignmentStarts s ((findAll wordOrAssignment? s).filterMap id) := by
  induction h : s.length using Nat.strongRecOn generalizing s with
  | ind n ih =>
    cases s with
    | nil => exact .done
    | cons c s =>
      cases first : word? (c :: s) with
      | none =>
        have none : wordOrAssignment? (c :: s) = none := by
          simp only [wordOrAssignment?, first, Option.bind_eq_bind, Option.bind_none]
        rw [findAll_cons_none none]
        refine .passed ?_ (ih s.length (by simp at h; omega) s rfl)
        rintro a rest ⟨⟨front, some, run⟩, _⟩
        have empty : (c :: s).takeWhile isWord = [] := by
          unfold word? at first
          split at first
          · assumption
          · cases first
        rw [empty] at run
        simp at run
      | some pair =>
        obtain ⟨w, behind⟩ := pair
        obtain ⟨split, word⟩ := word?_eq_some first
        have stop := word?_stops first
        rcases wordOrAssignment?_word first with ⟨a, rest, taken, start⟩ | ⟨taken, nothing⟩
        · obtain ⟨d, read, text⟩ := assignmentStarts_consumes _ _ _ start
          obtain ⟨rfl, rfl⟩ := List.cons.inj text
          rw [findAll_cons_some taken rfl]
          exact .found start (ih rest.length (by simp at h; omega) rest rfl)
        · obtain ⟨d, w, rfl⟩ := List.exists_cons_of_ne_nil word.1
          obtain ⟨rfl, rfl⟩ := List.cons.inj split
          rw [findAll_cons_some taken rfl]
          have rest := ih behind.length (by simp at h; omega) behind rfl
          exact scan_append (not_starts_inside word stop nothing) rest

theorem scan_iff_assignments {content : String} {found : List Assignment} :
    Scan AssignmentStarts content.toList found ↔ assignments content = found := by
  constructor
  · intro scan
    exact scan_unique assignmentStarts_consumes assignmentStarts_unique (scan_assignments _) scan
  · rintro rfl
    exact scan_assignments _

end InfraLint.Source
