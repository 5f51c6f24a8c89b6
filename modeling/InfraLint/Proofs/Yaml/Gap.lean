import InfraLint.Yaml.Flow
import InfraLint.Yaml.Writer
import Mathlib.Data.Option.Basic

/-!
Gaps in scalars: spaces, or breaks with spaces behind them. A text falls into runs of solid
characters and the gaps between them, and what is read of a gap is all of it.
-/
namespace InfraLint.Yaml
open Layout (spaces isSpace isPrintable hasNeighbours)

variable {s bs : List Char} {b : Char} {c : Cursor}

def IsPlainBreak (c : Char) : Prop := c = '\n' ∨ c = '\u2028' ∨ c = '\u2029'

def Unbroken (s : List Char) : Prop := ∀ c, s.head? = some c → isBreak c = false

def IsSolid (c : Char) : Prop := isBlank c = false ∧ isBreak c = false

instance (c : Char) : Decidable (IsSolid c) :=
  inferInstanceAs (Decidable (isBlank c = false ∧ isBreak c = false))

def Ungapped (s : List Char) : Prop := ∀ c, s.head? = some c → IsSolid c

theorem ungapped_cons : Ungapped (b :: s) ↔ IsSolid b := by
  simp [Ungapped]

theorem ungapped_append {u v : List Char} (given : u ≠ []) (ungapped : Ungapped u) :
    Ungapped (u ++ v) := by
  obtain ⟨c, u, rfl⟩ := List.exists_cons_of_ne_nil given
  exact ungapped

theorem Ungapped.unbroken (ungapped : Ungapped s) : Unbroken s :=
  fun c first => (ungapped c first).2

theorem isBreak_of_plain (plain : IsPlainBreak b) : isBreak b = true := by
  rcases plain with rfl | rfl | rfl <;> decide

theorem eq_space_of_printable (printable : isPrintable b = true) (blank : isBlank b = true) :
    b = ' ' := by
  simp only [isBlank, Bool.or_eq_true, beq_iff_eq] at blank
  refine blank.resolve_right ?_
  rintro rfl
  exact absurd printable (by decide)

theorem plainBreak_of_printable (printable : isPrintable b = true) (break_ : isBreak b = true) :
    IsPlainBreak b := by
  simp only [isBreak, Bool.or_eq_true, beq_iff_eq] at break_
  rcases break_ with (((rfl | rfl) | rfl) | rfl) | rfl
  · exact Or.inl rfl
  · exact absurd printable (by decide)
  · exact absurd printable (by decide)
  · exact Or.inr (Or.inl rfl)
  · exact Or.inr (Or.inr rfl)

theorem spaces_succ (n : Nat) : spaces (n + 1) = ' ' :: spaces n := List.replicate_succ

theorem spaces_of_forall (given : s ≠ []) (isSpaces : ∀ c ∈ s, c = ' ') :
    ∃ n, s = spaces (n + 1) := by
  refine ⟨s.length - 1, ?_⟩
  have length := List.length_pos_iff.mpr given
  rw [spaces, show s.length - 1 + 1 = s.length by omega]
  exact List.eq_replicate_iff.mpr ⟨rfl, isSpaces⟩

theorem unbroken_spaces {n : Nat} (unbroken : Unbroken s) : Unbroken (spaces n ++ s) := by
  cases n with
  | zero => exact unbroken
  | succ n =>
    intro c first
    obtain rfl : ' ' = c := by simpa [spaces_succ] using first
    decide

/-! Breaks -/

theorem lineBreak?_none {m : Mark} (unbroken : Unbroken s) :
    (⟨m, s⟩ : Cursor).lineBreak? = none := by
  cases s with
  | nil => rfl
  | cons x s =>
    have solid : isBreak x = false := unbroken x rfl
    simp only [Cursor.lineBreak?]
    split
    · rename_i same
      obtain ⟨rfl, _⟩ := List.cons.inj same
      exact absurd solid (by decide)
    · rename_i same
      obtain ⟨rfl, rfl⟩ := List.cons.inj same
      simp [solid]
    · rfl

theorem lineBreak?_plain {m : Mark} (plain : IsPlainBreak b) :
    (⟨m, b :: s⟩ : Cursor).lineBreak? = some (b, ⟨m.down 1, s⟩) := by
  have break_ := isBreak_of_plain plain
  rcases plain with rfl | rfl | rfl <;> simp [Cursor.lineBreak?, break_]

/-! Gaps -/

section Gaps

variable {indent : Int} {fuel n : Nat} {broken : Bool} {m : Mark}

theorem right_right (m : Mark) (a b : Nat) : (m.right a).right b = m.right (a + b) := by
  simp [Mark.right, Nat.add_assoc]

theorem right_zero (m : Mark) : m.right 0 = m := rfl

theorem gap?_spaces (ungapped : Ungapped s) (room : n < fuel) :
    gap? indent fuel broken ⟨m, spaces n ++ s⟩ =
      some (⟨if broken then [] else spaces n, []⟩, ⟨m.right n, s⟩) := by
  induction n generalizing fuel m with
  | zero =>
    obtain ⟨fuel, rfl⟩ : ∃ k, fuel = k + 1 := ⟨fuel - 1, by omega⟩
    have stop : (⟨m, s⟩ : Cursor).lineBreak? = none := lineBreak?_none ungapped.unbroken
    simp only [spaces, List.replicate_zero, List.nil_append, gap?, stop]
    cases s with
    | nil => simp [right_zero]
    | cons x s => simp [(ungapped_cons.mp ungapped).1, right_zero]
  | succ n ih =>
    obtain ⟨fuel, rfl⟩ : ∃ k, fuel = k + 1 := ⟨fuel - 1, by omega⟩
    have stop : (⟨m, ' ' :: (spaces n ++ s)⟩ : Cursor).lineBreak? = none :=
      lineBreak?_none (unbroken_spaces (n := n + 1) ungapped.unbroken)
    have blank : isBlank ' ' = true := by decide
    have rest : gap? indent fuel broken ⟨m.right 1, spaces n ++ s⟩ = _ := ih (by omega)
    rw [right_right] at rest
    simp only [spaces_succ, List.cons_append, gap?, stop, blank]
    cases broken <;> simp [Cursor.right, rest, Nat.add_comm]

/-- Behind a break the spaces are not kept. -/
theorem gap?_breaks (plain : ∀ b ∈ bs, IsPlainBreak b) (given : bs ≠ []) (ungapped : Ungapped s)
    (room : bs.length + n < fuel) :
    ∃ c, gap? indent fuel broken ⟨m, bs ++ (spaces n ++ s)⟩ = some (⟨[], bs⟩, c) ∧
      c.rest = s ∧ c.mark.column = n := by
  induction bs generalizing fuel m broken with
  | nil => exact absurd rfl given
  | cons b bs ih =>
    obtain ⟨fuel, rfl⟩ : ∃ k, fuel = k + 1 := ⟨fuel - 1, by omega⟩
    obtain ⟨isPlain, plain⟩ := List.forall_mem_cons.mp plain
    have break_ : (⟨m, b :: (bs ++ (spaces n ++ s))⟩ : Cursor).lineBreak? =
        some (b, ⟨m.down 1, bs ++ (spaces n ++ s)⟩) := lineBreak?_plain isPlain
    simp only [List.length_cons] at room
    simp only [List.cons_append, gap?, break_]
    -- only behind the last break do the spaces come next
    by_cases last : bs = []
    · subst last
      have behind : gap? indent fuel true ⟨m.down 1, spaces n ++ s⟩ = _ :=
        gap?_spaces ungapped (by omega)
      exact ⟨⟨(m.down 1).right n, s⟩, by simp [behind], rfl, by simp [Mark.down, Mark.right]⟩
    · obtain ⟨c, read, rest, column⟩ : ∃ c, gap? indent fuel true
          ⟨m.down 1, bs ++ (spaces n ++ s)⟩ = some (⟨[], bs⟩, c) ∧ c.rest = s ∧ c.mark.column = n :=
        ih plain last (by omega)
      exact ⟨c, by simp [read], rest, column⟩

end Gaps

/-! Texts with gaps -/

section Parts

variable {solid : Char → Prop} {cs : List Char}

structure IsGap (solid : Char → Prop) (g : List Char) : Prop where
  given : g ≠ []
  hollow : ∀ c ∈ g, ¬ solid c
  uniform : (∀ c ∈ g, c = ' ') ∨ ∀ c ∈ g, IsPlainBreak c

/-- Runs of solid characters with gaps between them. Only the first run and the last may be
empty. -/
inductive Parted (solid : Char → Prop) : List Char → Prop where
  | last {run : List Char} (inRun : ∀ c ∈ run, solid c) : Parted solid run
  | next {run gap rest : List Char} (inRun : ∀ c ∈ run, solid c) (isGap : IsGap solid gap)
      (behind : ∀ c, rest.head? = some c → solid c) (parted : Parted solid rest) :
      Parted solid (run ++ (gap ++ rest))

theorem isGap_singleton (hollow : ¬ solid b) (blank : b = ' ' ∨ IsPlainBreak b) :
    IsGap solid [b] := by
  refine ⟨by simp, by simpa using hollow, ?_⟩
  rcases blank with isSpace | isBreak
  · exact Or.inl (by simpa using isSpace)
  · exact Or.inr (by simpa using isBreak)

theorem isGap_cons {g : Char} {gap : List Char} (isGap : IsGap solid (g :: gap))
    (hollow : ¬ solid b) (blank : b = ' ' ∨ IsPlainBreak b) (alike : b = ' ' ↔ g = ' ') :
    IsGap solid (b :: g :: gap) := by
  refine ⟨by simp, List.forall_mem_cons.mpr ⟨hollow, isGap.hollow⟩, ?_⟩
  rcases isGap.uniform with isSpaces | areBreaks
  · exact Or.inl (List.forall_mem_cons.mpr ⟨alike.mpr (isSpaces g (by simp)), isSpaces⟩)
  · have isBreak : IsPlainBreak g := areBreaks g (by simp)
    have noSpace : g ≠ ' ' := by rcases isBreak with rfl | rfl | rfl <;> decide
    have isBreak : IsPlainBreak b := blank.resolve_left fun space => noSpace (alike.mp space)
    exact Or.inr (List.forall_mem_cons.mpr ⟨isBreak, areBreaks⟩)

/-- In front of a text that falls into parts, a character belongs to the first run or to the first
gap, or it is a gap of its own. -/
theorem parted_of_alike (gaps : ∀ c ∈ cs, solid c ∨ ¬ solid c ∧ (c = ' ' ∨ IsPlainBreak c))
    (alike : ∀ u a b v, cs = u ++ a :: b :: v → ¬ solid a → ¬ solid b → (a = ' ' ↔ b = ' ')) :
    Parted solid cs := by
  induction cs with
  | nil => exact .last (by simp)
  | cons c cs ih =>
    obtain ⟨first, others⟩ := List.forall_mem_cons.mp gaps
    have parted : Parted solid cs :=
      ih others fun u a b v split => alike (c :: u) a b v (by rw [split]; rfl)
    have noRun : ∀ x ∈ ([] : List Char), solid x := by simp
    -- a solid character lengthens the first run, a hollow one makes or lengthens the first gap
    rcases first with isSolid | ⟨hollow, blank⟩
    · cases parted with
      | last inRun => exact .last (List.forall_mem_cons.mpr ⟨isSolid, inRun⟩)
      | next inRun isGap behind parted =>
        exact .next (List.forall_mem_cons.mpr ⟨isSolid, inRun⟩) isGap behind parted
    · have alone := isGap_singleton hollow blank
      cases parted with
      | last inRun =>
        exact .next noRun alone (fun x head => inRun x (List.mem_of_mem_head? head)) (.last inRun)
      | @next run gap rest inRun isGap behind parted =>
        cases run with
        | cons x run =>
          refine .next noRun alone ?_ (.next inRun isGap behind parted)
          intro y head
          obtain rfl : x = y := by simpa using head
          exact inRun x (by simp)
        | nil =>
          obtain ⟨g, gap, rfl⟩ := List.exists_cons_of_ne_nil isGap.given
          have same := alike [] c g (gap ++ rest) rfl hollow (isGap.hollow g (by simp))
          exact .next noRun (isGap_cons isGap hollow blank same) behind parted

theorem hasNeighbours_split {p q : Char → Bool} {u v : List Char} {a b : Char}
    (none : hasNeighbours p q (u ++ a :: b :: v) = false) : (p a && q b) = false := by
  induction u with
  | nil => exact (Bool.or_eq_false_iff.mp none).1
  | cons x u ih =>
    apply ih
    cases u with
    | nil => exact (Bool.or_eq_false_iff.mp none).2
    | cons y u => exact (Bool.or_eq_false_iff.mp none).2

theorem parted_of_neighbours
    (gaps : ∀ c ∈ cs, solid c ∨ ¬ solid c ∧ (c = ' ' ∨ IsPlainBreak c))
    (breakSpace : hasNeighbours isBreak isSpace cs = false)
    (spaceBreak : hasNeighbours isSpace isBreak cs = false) : Parted solid cs := by
  refine parted_of_alike gaps ?_
  intro u a b v split hollowA hollowB
  subst split
  have blankA := ((gaps a (by simp)).resolve_left hollowA).2
  have blankB := ((gaps b (by simp)).resolve_left hollowB).2
  have first := hasNeighbours_split breakSpace
  have second := hasNeighbours_split spaceBreak
  constructor
  · rintro rfl
    refine blankB.resolve_right fun plain => ?_
    simp [isSpace, isBreak_of_plain plain] at second
  · rintro rfl
    refine blankA.resolve_right fun plain => ?_
    simp [isSpace, isBreak_of_plain plain] at first

end Parts
end InfraLint.Yaml
