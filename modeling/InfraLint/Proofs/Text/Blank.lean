import InfraLint.Text.Blank
import InfraLint.Text.Search
import InfraLint.Text.Word

/-!
What the recognisers of blanks read, and how blanks and words differ.
-/
namespace InfraLint.Text

def AllBlank (w : List Char) : Prop := ∀ c ∈ w, isBlank c = true

def Word (w : List Char) : Prop := w ≠ [] ∧ ∀ c ∈ w, isWord c = true

/-- The text does not go on with a blank. -/
def Unblanked (s : List Char) : Prop := ∀ c, s.head? = some c → isBlank c = false

theorem allBlank_of_all {w : List Char} (blank : w.all isBlank = true) : AllBlank w :=
  List.all_eq_true.mp blank

theorem space_allBlank : AllBlank [' '] := allBlank_of_all (by decide)

theorem feed_allBlank : AllBlank ['\n'] := allBlank_of_all (by decide)

theorem allBlank_cons {c : Char} {w : List Char} :
    AllBlank (c :: w) ↔ isBlank c = true ∧ AllBlank w := by
  simp [AllBlank]

theorem unblanked_cons {c : Char} {s : List Char} : Unblanked (c :: s) ↔ isBlank c = false := by
  simp [Unblanked]

/- The blanks by number. There are few, so that what holds of them all can be tested. -/
def blankCodes : List Nat :=
  [9, 10, 11, 12, 13, 32, 133, 160, 5760, 8192, 8193, 8194, 8195, 8196, 8197, 8198, 8199, 8200,
    8201, 8202, 8232, 8233, 8239, 8287, 12288]

theorem blank_code {c : Char} (blank : isBlank c = true) : c.toNat ∈ blankCodes := by
  simp only [isBlank, Char.inRanges, CodeRange.contains, List.any_cons, List.any_nil,
    Bool.or_false, Bool.or_eq_true, Bool.and_eq_true, decide_eq_true_eq] at blank
  simp only [blankCodes, List.mem_cons, List.not_mem_nil, or_false]
  omega

theorem of_blank {P : Char → Prop} [DecidablePred P]
    (each : ∀ n ∈ blankCodes, P (Char.ofNat n)) {c : Char} (blank : isBlank c = true) : P c := by
  have := each c.toNat (blank_code blank)
  rwa [Char.ofNat_toNat] at this

theorem blank_not_word {c : Char} (blank : isBlank c = true) : isWord c = false :=
  of_blank (P := fun c => isWord c = false) (by decide +kernel) blank

theorem word_not_blank {c : Char} (word : isWord c = true) : isBlank c = false := by
  cases blank : isBlank c with
  | false => rfl
  | true => simp [blank_not_word blank] at word

theorem skipBlank_append {w s : List Char} (blank : AllBlank w) :
    skipBlank (w ++ s) = skipBlank s := by
  induction w with
  | nil => rfl
  | cons c w ih =>
    obtain ⟨first, rest⟩ := allBlank_cons.mp blank
    simp only [skipBlank, List.cons_append, List.dropWhile_cons, first, if_true]
    exact ih rest

theorem skipBlank_unblanked {s : List Char} (h : Unblanked s) : skipBlank s = s := by
  cases s with
  | nil => rfl
  | cons c s => simp [skipBlank, unblanked_cons.mp h]

theorem unblanked_skipBlank (s : List Char) : Unblanked (skipBlank s) := by
  induction s with
  | nil => simp [skipBlank, Unblanked]
  | cons c s ih =>
    cases blank : isBlank c with
    | false => simp [skipBlank, blank, unblanked_cons]
    | true => simpa [skipBlank, blank] using ih

/-- What is skipped is blank, and nothing blank is left in front. -/
theorem skipBlank_eq_iff {s r : List Char} :
    skipBlank s = r ↔ (∃ w, AllBlank w ∧ s = w ++ r) ∧ Unblanked r := by
  constructor
  · intro same
    subst same
    refine ⟨⟨s.takeWhile isBlank, ?_, ?_⟩, unblanked_skipBlank s⟩
    · intro c member
      exact List.all_eq_true.mp List.all_takeWhile c member
    · exact List.takeWhile_append_dropWhile.symm
  · intro h
    obtain ⟨⟨w, blank, rfl⟩, stop⟩ := h
    rw [skipBlank_append blank, skipBlank_unblanked stop]

theorem blank?_eq_some {s r : List Char} :
    blank? s = some r ↔ (∃ w, w ≠ [] ∧ AllBlank w ∧ s = w ++ r) ∧ Unblanked r := by
  cases s with
  | nil =>
    simp only [blank?, reduceCtorEq, false_iff]
    intro h
    obtain ⟨⟨w, some, _, split⟩, _⟩ := h
    exact some (List.append_eq_nil_iff.mp split.symm).1
  | cons c s =>
    cases first : isBlank c with
    | false =>
      simp only [blank?, first, Bool.false_eq_true, if_false, reduceCtorEq, false_iff]
      intro h
      obtain ⟨⟨w, some, blank, split⟩, _⟩ := h
      cases w with
      | nil => exact some rfl
      | cons d w =>
        obtain ⟨rfl, _⟩ := List.cons.inj split
        simp [(allBlank_cons.mp blank).1] at first
    | true =>
      simp only [blank?, first, if_true, Option.some.injEq, skipBlank_eq_iff]
      constructor
      · intro h
        obtain ⟨⟨w, blank, rfl⟩, stop⟩ := h
        exact ⟨⟨c :: w, by simp, allBlank_cons.mpr ⟨first, blank⟩, rfl⟩, stop⟩
      · intro h
        obtain ⟨⟨w, some, blank, split⟩, stop⟩ := h
        cases w with
        | nil => exact absurd rfl some
        | cons d w =>
          obtain ⟨rfl, rfl⟩ := List.cons.inj split
          exact ⟨⟨w, (allBlank_cons.mp blank).2, rfl⟩, stop⟩

end InfraLint.Text
