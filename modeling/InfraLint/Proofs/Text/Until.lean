import InfraLint.Text.Search

/-!
Texts up to the next `q`: quoted texts, and tag maps up to a brace. A run of characters of any kind
ends where the next one is of another kind.
-/
namespace InfraLint.Text

variable {q : Char} {s t r : List Char}

theorem not_stop (fresh : q ∉ s) : ∀ c ∈ s, (c != q) = true := by
  intro c member
  rw [bne_iff_ne]
  intro same
  subst same
  exact fresh member

theorem takeWhile_ne_append_of_not_mem (fresh : q ∉ s) (t : List Char) :
    (s ++ t).takeWhile (· != q) = s ++ t.takeWhile (· != q) :=
  List.takeWhile_append_of_pos (not_stop fresh)

theorem dropWhile_ne_append_of_not_mem (fresh : q ∉ s) (t : List Char) :
    (s ++ t).dropWhile (· != q) = t.dropWhile (· != q) :=
  List.dropWhile_append_of_pos (not_stop fresh)

theorem takeWhile_ne_append (fresh : q ∉ s) : (s ++ q :: r).takeWhile (· != q) = s := by
  simp [takeWhile_ne_append_of_not_mem fresh]

theorem dropWhile_ne_append (fresh : q ∉ s) : (s ++ q :: r).dropWhile (· != q) = q :: r := by
  simp [dropWhile_ne_append_of_not_mem fresh]

theorem takeWhile_ne_of_not_mem (fresh : q ∉ s) : s.takeWhile (· != q) = s := by
  simpa using takeWhile_ne_append_of_not_mem fresh []

theorem dropWhile_ne_of_not_mem (fresh : q ∉ s) : s.dropWhile (· != q) = [] := by
  simpa using dropWhile_ne_append_of_not_mem fresh []

theorem split_at_first (inside : q ∈ s) : ∃ t r, s = t ++ q :: r ∧ q ∉ t := by
  obtain ⟨t, r, split, fresh⟩ := List.eq_append_cons_of_mem inside
  exact ⟨t, r, split, fresh⟩

theorem takeWhile_ne_append_of_mem (inside : q ∈ s) (t : List Char) :
    (s ++ t).takeWhile (· != q) = s.takeWhile (· != q) := by
  obtain ⟨u, v, rfl, fresh⟩ := split_at_first inside
  rw [List.append_assoc, List.cons_append, takeWhile_ne_append fresh, takeWhile_ne_append fresh]

theorem takeWhile_append_stop {p : Char → Bool} {w r : List Char} (all : ∀ c ∈ w, p c = true)
    (stop : ∀ c, r.head? = some c → p c = false) :
    (w ++ r).takeWhile p = w ∧ (w ++ r).dropWhile p = r := by
  induction w with
  | nil =>
    cases r with
    | nil => simp
    | cons c r => simp [stop c rfl]
  | cons c w ih =>
    simp only [List.mem_cons, forall_eq_or_imp] at all
    simpa [all.1] using ih all.2

theorem quoted?_eq_some :
    quoted? q s = some (t, r) ↔ s = q :: t ++ q :: r ∧ t ≠ [] ∧ q ∉ t := by
  constructor
  · intro taken
    cases s with
    | nil => simp [quoted?] at taken
    | cons c s =>
      by_cases same : c = q
      · subst same
        by_cases closes : c ∈ s
        · obtain ⟨u, v, rfl, fresh⟩ := split_at_first closes
          simp only [quoted?, if_true, takeWhile_ne_append fresh,
            dropWhile_ne_append fresh] at taken
          cases u with
          | nil => simp at taken
          | cons d u =>
            simp only [Option.some.injEq, Prod.mk.injEq] at taken
            obtain ⟨rfl, rfl⟩ := taken
            exact ⟨rfl, by simp, fresh⟩
        · simp only [quoted?, if_true, dropWhile_ne_of_not_mem closes] at taken
          split at taken <;> simp_all
      · simp [quoted?, same] at taken
  · intro h
    obtain ⟨rfl, some, fresh⟩ := h
    cases t with
    | nil => exact absurd rfl some
    | cons d t =>
      simp only [List.cons_append, quoted?, if_true]
      rw [← List.cons_append, takeWhile_ne_append fresh, dropWhile_ne_append fresh]

end InfraLint.Text
