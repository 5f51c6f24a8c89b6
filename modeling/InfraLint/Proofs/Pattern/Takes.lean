import InfraLint.Pattern.Basic

/-!
What a pattern takes, by its outermost constructor. Each statement reads a derivation of `Takes`
back, so that texts taken by a concrete pattern can be written out part by part. Below are the
members of classes that are put together from a list, and how often a repeated class is taken.
-/
namespace InfraLint.Pattern

variable {p q : Pattern} {cls : CharClass} {before s after : List Char}

theorem takes_empty : Takes .empty before s after ↔ s = [] := by
  constructor
  · intro taken
    cases taken
    rfl
  · rintro rfl
    exact .empty

theorem takes_anchor {a : Anchor} :
    Takes (.anchor a) before s after ↔
      s = [] ∧ a.holds before.head? after.head? = true := by
  constructor
  · intro taken
    cases taken with
    | anchor holds => exact ⟨rfl, holds⟩
  · rintro ⟨rfl, holds⟩
    exact .anchor holds

theorem takes_chars :
    Takes (.chars cls) before s after ↔ ∃ c, s = [c] ∧ cls.contains c = true := by
  constructor
  · intro taken
    cases taken with
    | chars member => exact ⟨_, rfl, member⟩
  · intro h
    obtain ⟨c, rfl, member⟩ := h
    exact .chars member

theorem takes_seq :
    Takes (.seq p q) before s after ↔
      ∃ t u, s = t ++ u ∧ Takes p before t (u ++ after) ∧
        Takes q (t.reverse ++ before) u after := by
  constructor
  · intro taken
    cases taken with
    | seq first second => exact ⟨_, _, rfl, first, second⟩
  · intro h
    obtain ⟨t, u, rfl, first, second⟩ := h
    exact .seq first second

theorem takes_alt :
    Takes (.alt p q) before s after ↔ Takes p before s after ∨ Takes q before s after := by
  constructor
  · intro taken
    cases taken with
    | left taken => exact Or.inl taken
    | right taken => exact Or.inr taken
  · intro h
    rcases h with taken | taken
    · exact .left taken
    · exact .right taken

/-- Induction over the rounds of a repetition. -/
theorem takes_star_induction {P : List Char → Prop} (taken : Takes (.star p) before s after)
    (stop : P [])
    (more : ∀ before t u after, Takes p before t (u ++ after) → P u → P (t ++ u)) : P s := by
  generalize repetition : Pattern.star p = r at taken
  induction taken with
  | stop => exact stop
  | more first rest _ ih =>
    obtain rfl := Pattern.star.inj repetition
    exact more _ _ _ _ first (ih rfl)
  | _ => cases repetition

theorem takes_star_chars :
    Takes (.star (.chars cls)) before s after ↔ ∀ c ∈ s, cls.contains c = true := by
  constructor
  · intro taken
    refine takes_star_induction (P := fun s => ∀ c ∈ s, cls.contains c = true) taken (by simp) ?_
    intro before t u after first rest
    obtain ⟨c, rfl, member⟩ := takes_chars.mp first
    simpa [member] using rest
  · intro members
    induction s generalizing before with
    | nil => exact .stop
    | cons c s ih =>
      simp only [List.mem_cons, forall_eq_or_imp] at members
      exact .more (s := [c]) (.chars members.1) (ih members.2)

/-! Classes -/

theorem contains_one {a c : Char} : (CharClass.one a).contains c = true ↔ c = a := by
  simp only [CharClass.one, CharClass.contains, Bool.and_eq_true, decide_eq_true_eq]
  rw [← Nat.le_antisymm_iff, eq_comm, Char.toNat_inj]

theorem contains_ofList (classes : List CharClass) (c : Char) :
    (CharClass.ofList classes).contains c = classes.any (·.contains c) := by
  have joined (a : CharClass) :
      (classes.foldl .union a).contains c = (a.contains c || classes.any (·.contains c)) := by
    induction classes generalizing a with
    | nil => simp
    | cons b classes ih =>
      rw [List.foldl_cons, ih, CharClass.contains, List.any_cons, Bool.or_assoc]
  exact joined .empty

theorem contains_ofRanges (ranges : List (Char × Char)) (c : Char) :
    (CharClass.ofRanges ranges).contains c =
      ranges.any fun (a, b) => (CharClass.range a.toNat b.toNat).contains c := by
  rw [CharClass.ofRanges, contains_ofList, List.any_map]
  rfl

/-! Repetitions of a class -/

theorem takes_upTo_chars {n : Nat} :
    Takes (upTo (.chars cls) n) before s after ↔
      s.length ≤ n ∧ ∀ c ∈ s, cls.contains c = true := by
  induction n generalizing before s with
  | zero =>
    simp only [upTo, takes_empty, Nat.le_zero, List.length_eq_zero_iff]
    constructor
    · rintro rfl
      exact ⟨rfl, by simp⟩
    · exact And.left
  | succ n ih =>
    simp only [upTo, optional, takes_alt, takes_seq, takes_chars, takes_empty, ih]
    constructor
    · rintro (⟨_, u, rfl, ⟨c, rfl, member⟩, short, members⟩ | rfl)
      · exact ⟨Nat.succ_le_succ short, List.forall_mem_cons.mpr ⟨member, members⟩⟩
      · simp
    · rintro ⟨short, members⟩
      cases s with
      | nil => exact .inr rfl
      | cons c s =>
        obtain ⟨member, members⟩ := List.forall_mem_cons.mp members
        exact .inl ⟨[c], s, rfl, ⟨c, rfl, member⟩, Nat.le_of_succ_le_succ short, members⟩

theorem takes_upTo_one :
    Takes (upTo (.chars cls) 1) before s after ↔
      s = [] ∨ ∃ c, s = [c] ∧ cls.contains c = true := by
  rw [takes_upTo_chars]
  constructor
  · rintro ⟨short, members⟩
    match s with
    | [] => exact .inl rfl
    | [c] => exact .inr ⟨c, rfl, members c List.mem_cons_self⟩
  · rintro (rfl | ⟨c, rfl, member⟩)
    · simp
    · simpa using member

theorem takes_times_chars {n : Nat} :
    Takes (times (.chars cls) n q) before s after ↔
      n ≤ s.length ∧ (∀ c ∈ s.take n, cls.contains c = true) ∧
        Takes q ((s.take n).reverse ++ before) (s.drop n) after := by
  induction n generalizing before s with
  | zero => simp [times]
  | succ n ih =>
    simp only [times, takes_seq, takes_chars, ih]
    constructor
    · rintro ⟨_, u, rfl, ⟨c, rfl, member⟩, enough, members, taken⟩
      refine ⟨Nat.succ_le_succ enough, List.forall_mem_cons.mpr ⟨member, members⟩, ?_⟩
      simpa using taken
    · rintro ⟨enough, members, taken⟩
      cases s with
      | nil => exact absurd enough (Nat.not_succ_le_zero n)
      | cons c s =>
        obtain ⟨member, members⟩ := List.forall_mem_cons.mp members
        exact ⟨[c], s, rfl, ⟨c, rfl, member⟩, Nat.le_of_succ_le_succ enough, members,
          by simpa using taken⟩

/-- Bounds on how often a class is taken are bounds on the length. -/
theorem takes_repeated_chars {least : Nat} {most : Option Nat} :
    Takes (repeated (.chars cls) least most) before s after ↔
      least ≤ s.length ∧ (∀ n ∈ most, s.length ≤ max least n) ∧
        ∀ c ∈ s, cls.contains c = true := by
  have all : (∀ c ∈ s, cls.contains c = true) ↔
      (∀ c ∈ s.take least, cls.contains c = true) ∧
        ∀ c ∈ s.drop least, cls.contains c = true := by
    rw [← List.forall_mem_append, List.take_append_drop]
  cases most with
  | none => simp [repeated, takes_times_chars, takes_star_chars, all]
  | some most =>
    simp only [repeated, takes_times_chars, takes_upTo_chars, List.length_drop, all,
      Option.mem_some, forall_eq']
    constructor
    · rintro ⟨enough, front, short, rest⟩
      exact ⟨enough, by omega, front, rest⟩
    · rintro ⟨enough, short, front, rest⟩
      exact ⟨enough, front, by omega, rest⟩

/-- `[…]+`. -/
def runOf (cls : CharClass) : Pattern := (chars cls).repeated 1 none

theorem takes_runOf :
    Takes (runOf cls) before s after ↔ s ≠ [] ∧ ∀ c ∈ s, cls.contains c = true := by
  rw [runOf, takes_repeated_chars, Nat.one_le_iff_ne_zero, ne_eq, List.length_eq_zero_iff]
  simp

end InfraLint.Pattern
