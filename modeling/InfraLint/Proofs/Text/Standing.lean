import InfraLint.Proofs.Text.Blank

/-!
Words that stand on their own in a text. A text is searched part by part: what is no word
character keeps the words on its two sides apart.
-/
namespace InfraLint.Text

/-- The word stands somewhere in the text with no word character beside it. -/
def Stands (w s : List Char) : Prop :=
  ∃ u v, s = u ++ w ++ v ∧ u.getLast?.any isWord = false ∧ v.head?.any isWord = false

variable {w s t : List Char} {c : Char}

theorem not_stands_nil (word : Word w) : ¬ Stands w [] := by
  intro h
  obtain ⟨u, v, split, _⟩ := h
  simp [word.1] at split

theorem getLast?_any_append {P : Char → Bool} (last : P c = false) (s t : List Char) :
    (s ++ c :: t).getLast?.any P = t.getLast?.any P := by
  rw [List.getLast?_append, List.getLast?_cons]
  cases t.getLast? with
  | none => simp [last]
  | some d => simp

theorem stands_left (apart : isWord c = false) (h : Stands w s) : Stands w (s ++ c :: t) := by
  obtain ⟨u, v, rfl, before, behind⟩ := h
  refine ⟨u, v ++ c :: t, by simp, before, ?_⟩
  cases v with
  | nil => simpa using apart
  | cons d v => exact behind

/-- Nothing that stands on its own lies across a character that is in no word. -/
theorem stands_split (word : Word w) (apart : isWord c = false)
    (h : Stands w (s ++ c :: t)) : Stands w s ∨ Stands w t := by
  obtain ⟨u, v, split, before, behind⟩ := h
  have outside : c ∉ w := by
    intro member
    simp [word.2 c member] at apart
  rw [List.append_assoc] at split
  rcases List.append_eq_append_iff.mp split with ⟨x, rfl, tail⟩ | ⟨x, rfl, tail⟩
  · -- the word comes behind `s`, so it comes behind `c`
    cases x with
    | nil =>
      cases w with
      | nil => exact absurd rfl word.1
      | cons d w =>
        obtain ⟨rfl, _⟩ := List.cons.inj tail
        simp at outside
    | cons d x =>
      obtain ⟨rfl, rfl⟩ := List.cons.inj tail
      refine Or.inr ⟨x, v, by simp, ?_, behind⟩
      rwa [getLast?_any_append apart] at before
  · rcases List.append_eq_append_iff.mp tail with ⟨y, rfl, rfl⟩ | ⟨y, rfl, last⟩
    · -- the word ends before `c`
      refine Or.inl ⟨u, y, by simp, before, ?_⟩
      cases y with
      | nil => simp
      | cons d y => exact behind
    · cases y with
      | nil => exact Or.inl ⟨u, [], by simp, before, by simp⟩
      | cons d y =>
        obtain ⟨rfl, _⟩ := List.cons.inj last
        simp at outside

theorem stands_cons (word : Word w) (apart : isWord c = false) (h : Stands w (c :: s)) :
    Stands w s := by
  rcases stands_split (s := []) word apart h with left | right
  · exact absurd left (not_stands_nil word)
  · exact right

theorem stands_append (word : Word w) (apart : ∀ c ∈ s, isWord c = false)
    (h : Stands w (s ++ t)) : Stands w t := by
  induction s with
  | nil => exact h
  | cons d s ih =>
    have rest := stands_cons word (apart d (by simp)) h
    exact ih (fun c member => apart c (List.mem_cons_of_mem d member)) rest

theorem stands_apart {m : List Char} (word : Word w) (some : m ≠ [])
    (apart : ∀ c ∈ m, isWord c = false) (h : Stands w (s ++ (m ++ t))) :
    Stands w s ∨ Stands w t := by
  cases m with
  | nil => exact absurd rfl some
  | cons d m =>
    rcases stands_split word (apart d (by simp)) h with left | right
    · exact Or.inl left
    · exact Or.inr (stands_append word (fun c member => apart c (by simp [member])) right)

theorem not_stands_of_apart (word : Word w) (apart : ∀ c ∈ s, isWord c = false) :
    ¬ Stands w s := by
  intro h
  obtain ⟨u, v, rfl, _⟩ := h
  cases w with
  | nil => exact word.1 rfl
  | cons d w =>
    have first := word.2 d (by simp)
    simp [apart d (by simp)] at first

/-- No word reaches up to the end of the text. -/
def EndsApart (s : List Char) : Prop := s.getLast?.any isWord = false

theorem endsApart_append (first : EndsApart s) (second : EndsApart t) : EndsApart (s ++ t) := by
  unfold EndsApart at first second ⊢
  rw [List.getLast?_append]
  cases last : t.getLast? with
  | none => simpa using first
  | some d => simpa [last] using second

theorem endsApart_of_apart (apart : ∀ c ∈ s, isWord c = false) : EndsApart s := by
  unfold EndsApart
  cases last : s.getLast? with
  | none => rfl
  | some d => simpa using apart d (List.mem_of_getLast? last)

end InfraLint.Text
