import InfraLint.Pattern.Search
import InfraLint.Proofs.Pattern.Takes

/-!
The search by marks finds a pattern exactly in the texts of which it takes some part. A mark is a
way through the pattern that has just taken a character there. What the ways under way may still
take is a second meaning of a marked pattern, beside what it takes from the start, and one step of
the search moves both on by one character.
-/
namespace InfraLint.Pattern

variable {p q : Pattern} {before s after : List Char} {c : Char}

/-! Fronts and parts of a text, by its first character -/

theorem exists_front_nil {X : List Char → List Char → Prop} :
    (∃ t u, [] = t ++ u ∧ X t u) ↔ X [] [] := by
  constructor
  · rintro ⟨t, u, split, holds⟩
    obtain ⟨rfl, rfl⟩ := List.append_eq_nil_iff.mp split.symm
    exact holds
  · intro holds
    exact ⟨[], [], rfl, holds⟩

theorem exists_front_cons {X : List Char → List Char → Prop} :
    (∃ t u, c :: s = t ++ u ∧ X t u) ↔ X [] (c :: s) ∨ ∃ t u, s = t ++ u ∧ X (c :: t) u := by
  constructor
  · rintro ⟨t, u, split, holds⟩
    cases t with
    | nil =>
      obtain rfl : c :: s = u := split
      exact .inl holds
    | cons d t =>
      obtain ⟨rfl, rfl⟩ := List.cons.inj split
      exact .inr ⟨t, u, rfl, holds⟩
  · rintro (holds | ⟨t, u, rfl, holds⟩)
    · exact ⟨[], c :: s, rfl, holds⟩
    · exact ⟨c :: t, u, rfl, holds⟩

/- Some part of the text is taken, where `before` stands in front of the text. -/
def FoundBehind (p : Pattern) (before s : List Char) : Prop :=
  ∃ t r, s = t ++ r ∧ ∃ u v, r = u ++ v ∧ Takes p (t.reverse ++ before) u v

theorem found_iff : Found p s ↔ FoundBehind p [] s := by
  constructor
  · rintro ⟨t, u, v, rfl, taken⟩
    exact ⟨t, u ++ v, List.append_assoc .., u, v, rfl, by simpa using taken⟩
  · rintro ⟨t, _, rfl, u, v, rfl, taken⟩
    exact ⟨t, u, v, (List.append_assoc ..).symm, by simpa using taken⟩

theorem foundBehind_nil : FoundBehind p before [] ↔ Takes p before [] [] := by
  simp only [FoundBehind, exists_front_nil, List.reverse_nil, List.nil_append]

theorem foundBehind_cons : FoundBehind p before (c :: s) ↔
    (∃ u v, c :: s = u ++ v ∧ Takes p before u v) ∨ FoundBehind p (c :: before) s := by
  rw [FoundBehind, exists_front_cons]
  simp only [List.reverse_nil, List.nil_append, List.reverse_cons, List.append_assoc,
    List.singleton_append, FoundBehind]

/- The first part takes a front of the text and the second what is left. -/
def Followed (first : List Char → List Char → Prop)
    (second : List Char → List Char → List Char → Prop) (before s after : List Char) : Prop :=
  ∃ t u, s = t ++ u ∧ first t (u ++ after) ∧ second (t.reverse ++ before) u after

theorem takes_followed :
    Takes (.seq p q) before s after ↔ Followed (Takes p before) (Takes q) before s after :=
  takes_seq

variable {first first' : List Char → List Char → Prop}
  {second : List Char → List Char → List Char → Prop}

theorem followed_nil :
    Followed first second before [] after ↔ first [] after ∧ second before [] after := by
  simp only [Followed, exists_front_nil, List.reverse_nil, List.nil_append]

/- The front is empty, or it has the first character. -/
theorem followed_cons :
    Followed first second before (c :: s) after ↔
      first [] (c :: s ++ after) ∧ second before (c :: s) after ∨
        Followed (fun t => first (c :: t)) second (c :: before) s after := by
  rw [Followed, exists_front_cons]
  simp only [List.reverse_nil, List.nil_append, List.reverse_cons, List.append_assoc,
    List.singleton_append, Followed]

/- A first part of two kinds, the second of which a condition admits. -/
theorem followed_or {admitted : Prop} {other : List Char → List Char → Prop}
    (either : ∀ t after, first t after ↔ first' t after ∨ admitted ∧ other t after) :
    Followed first second before s after ↔
      Followed first' second before s after ∨ admitted ∧ Followed other second before s after := by
  constructor
  · rintro ⟨t, u, rfl, takes, follows⟩
    rcases (either _ _).mp takes with takes | ⟨admitted, takes⟩
    · exact .inl ⟨t, u, rfl, takes, follows⟩
    · exact .inr ⟨admitted, t, u, rfl, takes, follows⟩
  · rintro (⟨t, u, rfl, takes, follows⟩ | ⟨admitted, t, u, rfl, takes, follows⟩)
    · exact ⟨t, u, rfl, (either _ _).mpr (.inl takes), follows⟩
    · exact ⟨t, u, rfl, (either _ _).mpr (.inr ⟨admitted, takes⟩), follows⟩

/- A repetition that takes a character starts with a round that does. Rounds that take nothing can
   be left out. -/
theorem takes_star_cons : Takes (.star p) before (c :: s) after ↔
    Followed (fun t => Takes p before (c :: t)) (Takes (.star p)) (c :: before) s after := by
  constructor
  · intro taken
    generalize repetition : Pattern.star p = r at taken
    generalize text : c :: s = w at taken
    induction taken with
    | stop => cases text
    | @more p before t u after first rest _ ih =>
      obtain rfl := Pattern.star.inj repetition
      cases t with
      | nil => exact ih rfl text
      | cons d t =>
        obtain ⟨rfl, rfl⟩ := List.cons.inj text
        exact ⟨t, u, rfl, first, by simpa using rest⟩
    | _ => cases repetition
  · rintro ⟨t, u, rfl, first, rest⟩
    exact .more (s := c :: t) first (by simpa using rest)

namespace Marked

/-- What is left without the marks. -/
def pattern : Marked → Pattern
  | empty => .empty
  | anchor a => .anchor a
  | chars _ cls => .chars cls
  | seq p q => .seq p.pattern q.pattern
  | alt p q => .alt p.pattern q.pattern
  | star p => .star p.pattern

/-- What the ways under way may still take, up to the end of the pattern. -/
def Continues : Marked → List Char → List Char → List Char → Prop
  | empty, _, _, _ => False
  | anchor _, _, _, _ => False
  | chars mark _, _, s, _ => mark = true ∧ s = []
  | seq p q, before, s, after =>
    Followed (p.Continues before) (Takes q.pattern) before s after ∨ q.Continues before s after
  | alt p q, before, s, after => p.Continues before s after ∨ q.Continues before s after
  | star p, before, s, after =>
    Followed (p.Continues before) (Takes (.star p.pattern)) before s after

theorem passes_iff (m : Marked) (before after : List Char) :
    m.passes before.head? after.head? = true ↔ Takes m.pattern before [] after := by
  induction m with
  | empty => simp [passes, pattern, takes_empty]
  | anchor a => simp [passes, pattern, takes_anchor]
  | chars mark cls => simp [passes, pattern, takes_chars]
  | seq p q ihp ihq =>
    simp only [passes, pattern, takes_followed, followed_nil, Bool.and_eq_true, ihp, ihq]
  | alt p q ihp ihq => simp only [passes, pattern, takes_alt, Bool.or_eq_true, ihp, ihq]
  | star p _ => exact iff_of_true rfl .stop

theorem ends_iff (m : Marked) (before after : List Char) :
    m.ends before.head? after.head? = true ↔ m.Continues before [] after := by
  induction m with
  | empty => simp [ends, Continues]
  | anchor a => simp [ends, Continues]
  | chars mark cls => simp [ends, Continues]
  | seq p q ihp ihq =>
    simp only [ends, Continues, followed_nil, Bool.or_eq_true, Bool.and_eq_true, passes_iff, ihp,
      ihq]
  | alt p q ihp ihq => simp only [ends, Continues, Bool.or_eq_true, ihp, ihq]
  | star p ih =>
    have stops : Takes (.star p.pattern) before [] after := .stop
    simp only [ends, Continues, followed_nil, ih, stops, and_true]

theorem pattern_step (m : Marked) (place : Option Char) (c : Char) (enter : Bool) :
    (m.step place c enter).pattern = m.pattern := by
  induction m generalizing enter with
  | empty => rfl
  | anchor a => rfl
  | chars mark cls => rfl
  | seq p q ihp ihq => simp only [step, pattern, ihp, ihq]
  | alt p q ihp ihq => simp only [step, pattern, ihp, ihq]
  | star p ih => simp only [step, pattern, ih]

/- Behind the character are the ways that could take it and, where a way may start in front of it,
   those that start with it. -/
theorem continues_step (m : Marked) (before : List Char) (c : Char) (enter : Bool)
    (s after : List Char) :
    (m.step before.head? c enter).Continues (c :: before) s after ↔
      m.Continues before (c :: s) after ∨
        enter = true ∧ Takes m.pattern before (c :: s) after := by
  induction m generalizing enter s after with
  | empty => simp [step, Continues, pattern, takes_empty]
  | anchor a => simp [step, Continues, pattern, takes_anchor]
  | chars mark cls =>
    simp only [step, Continues, pattern, takes_chars, Bool.and_eq_true, List.cons.injEq,
      reduceCtorEq, and_false, false_or]
    constructor
    · rintro ⟨⟨enter, member⟩, rfl⟩
      exact ⟨enter, c, ⟨rfl, rfl⟩, member⟩
    · rintro ⟨enter, _, ⟨rfl, rfl⟩, member⟩
      exact ⟨⟨enter, member⟩, rfl⟩
  | seq p q ihp ihq =>
    have ends : p.ends before.head? (some c) = true ↔ p.Continues before [] (c :: s ++ after) :=
      p.ends_iff before (c :: s ++ after)
    have passes : p.passes before.head? (some c) = true ↔
        Takes p.pattern before [] (c :: s ++ after) := p.passes_iff before (c :: s ++ after)
    simp only [step, Continues, pattern, takes_followed, followed_cons, pattern_step, ihq,
      followed_or (ihp enter), Bool.or_eq_true, Bool.and_eq_true, ends, passes]
    grind
  | alt p q ihp ihq =>
    simp only [step, Continues, pattern, takes_alt, ihp, ihq]
    grind
  | star p ih =>
    -- The character is taken by the round under way, by one behind a round that has ended here, or
    -- by the first of all.
    have ends : p.ends before.head? (some c) = true ↔ p.Continues before [] (c :: s ++ after) :=
      p.ends_iff before (c :: s ++ after)
    simp only [step, Continues, pattern, takes_star_cons, followed_cons, pattern_step,
      followed_or (ih _), Bool.or_eq_true, ends]
    grind

/- A way under way comes to its end, or one that starts here or later does. -/
theorem finds_iff (m : Marked) (before s : List Char) :
    m.finds before.head? s = true ↔
      (∃ t u, s = t ++ u ∧ m.Continues before t u) ∨ FoundBehind m.pattern before s := by
  induction s generalizing m before with
  | nil =>
    have ends : m.ends before.head? none = true ↔ m.Continues before [] [] := m.ends_iff before []
    have passes : m.passes before.head? none = true ↔ Takes m.pattern before [] [] :=
      m.passes_iff before []
    simp only [finds, Bool.or_eq_true, ends, passes, exists_front_nil, foundBehind_nil]
  | cons c s ih =>
    have ends : m.ends before.head? (some c) = true ↔ m.Continues before [] (c :: s) :=
      m.ends_iff before (c :: s)
    have passes : m.passes before.head? (some c) = true ↔ Takes m.pattern before [] (c :: s) :=
      m.passes_iff before (c :: s)
    have later := ih (m.step before.head? c true) (c :: before)
    simp only [List.head?_cons, pattern_step, continues_step, true_and, and_or_left,
      exists_or] at later
    simp only [finds, Bool.or_eq_true, ends, passes, later, foundBehind_cons, exists_front_cons]
    grind

theorem unmarked_pattern (p : Pattern) : p.unmarked.pattern = p := by
  induction p with
  | empty => rfl
  | anchor a => rfl
  | chars cls => rfl
  | seq p q ihp ihq => rw [unmarked, pattern, ihp, ihq]
  | alt p q ihp ihq => rw [unmarked, pattern, ihp, ihq]
  | star p ih => rw [unmarked, pattern, ih]

theorem not_continues_unmarked (p : Pattern) (before s after : List Char) :
    ¬ p.unmarked.Continues before s after := by
  induction p generalizing s after with
  | empty => exact id
  | anchor a => exact id
  | chars cls => simp [unmarked, Continues]
  | seq p q ihp ihq =>
    rintro (⟨t, u, _, continues, _⟩ | continues)
    · exact ihp _ _ continues
    · exact ihq _ _ continues
  | alt p q ihp ihq =>
    rintro (continues | continues)
    · exact ihp _ _ continues
    · exact ihq _ _ continues
  | star p ih =>
    rintro ⟨t, u, _, continues, _⟩
    exact ih _ _ continues

end Marked

/-- The search finds a pattern in the texts of which the pattern takes some part, and in no
others. -/
theorem isFoundIn_iff {text : String} : p.isFoundIn text = true ↔ Found p text.toList := by
  have search : p.unmarked.finds none text.toList = true ↔ _ :=
    p.unmarked.finds_iff [] text.toList
  simp only [Marked.unmarked_pattern, Marked.not_continues_unmarked, and_false, exists_false,
    false_or] at search
  rw [isFoundIn, search, found_iff]

end InfraLint.Pattern
