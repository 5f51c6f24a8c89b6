import InfraLint.Source.Block

/-!
Braces by counting. A text is balanced when none of its prefixes closes more braces than it
opens and the whole opens as many as it closes; its height is the number of braces that are open
at once. `closing?` finds the brace that the count says.
-/
namespace InfraLint.Source

def braceLevel (s : List Char) : Int := s.count '{' - s.count '}'

/-- The text between two matching braces, with at most `levels` further ones open at a time. -/
structure Balanced (levels : Nat) (s : List Char) : Prop where
  bounded : ∀ p, p <+: s → 0 ≤ braceLevel p ∧ braceLevel p ≤ levels
  closed : braceLevel s = 0

/- The form for induction: `depth` inner braces are open in front of `s` and closed in it. -/
structure ClosesFrom (levels depth : Nat) (s : List Char) : Prop where
  bounded : ∀ p, p <+: s → 0 ≤ depth + braceLevel p ∧ depth + braceLevel p ≤ levels
  closed : depth + braceLevel s = 0

theorem balanced_iff_closesFrom {levels : Nat} {s : List Char} :
    Balanced levels s ↔ ClosesFrom levels 0 s := by
  constructor
  · intro h
    obtain ⟨bounded, closed⟩ := h
    exact ⟨by simpa using bounded, by simpa using closed⟩
  · intro h
    obtain ⟨bounded, closed⟩ := h
    exact ⟨by simpa using bounded, by simpa using closed⟩

theorem braceLevel_nil : braceLevel [] = 0 := by
  simp [braceLevel]

theorem braceLevel_open (s : List Char) : braceLevel ('{' :: s) = braceLevel s + 1 := by
  simp [braceLevel]
  omega

theorem braceLevel_close (s : List Char) : braceLevel ('}' :: s) = braceLevel s - 1 := by
  simp [braceLevel]
  omega

theorem braceLevel_other {c : Char} (notOpen : c ≠ '{') (notClose : c ≠ '}') (s : List Char) :
    braceLevel (c :: s) = braceLevel s := by
  simp [braceLevel, notOpen, notClose]

theorem braceLevel_append (s t : List Char) :
    braceLevel (s ++ t) = braceLevel s + braceLevel t := by
  simp [braceLevel]
  omega

theorem closesFrom_nil {levels depth : Nat} : ClosesFrom levels depth [] ↔ depth = 0 := by
  constructor
  · intro h
    have := h.closed
    simp only [braceLevel_nil] at this
    omega
  · intro same
    subst same
    refine ⟨?_, by simp [braceLevel_nil]⟩
    intro p front
    rw [List.prefix_nil.mp front, braceLevel_nil]
    omega

/-- One character moves the count from `depth` to `next`; the rest goes on from there. -/
theorem closesFrom_cons {levels depth next : Nat} {c : Char} {s : List Char}
    (room : depth ≤ levels) (moves : ∀ t, depth + braceLevel (c :: t) = next + braceLevel t) :
    ClosesFrom levels depth (c :: s) ↔ ClosesFrom levels next s := by
  constructor
  · intro h
    refine ⟨?_, by rw [← moves]; exact h.closed⟩
    intro p front
    rw [← moves]
    exact h.bounded _ (List.cons_prefix_cons.mpr ⟨rfl, front⟩)
  · intro h
    refine ⟨?_, by rw [moves]; exact h.closed⟩
    intro p front
    rcases List.prefix_cons_iff.mp front with rfl | ⟨q, rfl, rest⟩
    · rw [braceLevel_nil]
      omega
    · rw [moves]
      exact h.bounded q rest

theorem closesFrom_open {levels depth : Nat} {s : List Char} (room : depth ≤ levels) :
    ClosesFrom levels depth ('{' :: s) ↔ ClosesFrom levels (depth + 1) s := by
  refine closesFrom_cons room ?_
  intro t
  rw [braceLevel_open]
  omega

theorem closesFrom_close {levels depth : Nat} {s : List Char} (room : depth + 1 ≤ levels) :
    ClosesFrom levels (depth + 1) ('}' :: s) ↔ ClosesFrom levels depth s := by
  refine closesFrom_cons room ?_
  intro t
  rw [braceLevel_close]
  omega

theorem closesFrom_other {levels depth : Nat} {c : Char} {s : List Char} (room : depth ≤ levels)
    (notOpen : c ≠ '{') (notClose : c ≠ '}') :
    ClosesFrom levels depth (c :: s) ↔ ClosesFrom levels depth s := by
  refine closesFrom_cons room ?_
  intro t
  rw [braceLevel_other notOpen notClose]

theorem not_closesFrom_close {levels : Nat} {s : List Char} :
    ¬ ClosesFrom levels 0 ('}' :: s) := by
  intro h
  have := (h.bounded ['}'] (by simp)).1
  rw [braceLevel_close, braceLevel_nil] at this
  omega

theorem not_closesFrom_full {levels : Nat} {s : List Char} :
    ¬ ClosesFrom levels levels ('{' :: s) := by
  intro h
  have := (h.bounded ['{'] (by simp)).2
  rw [braceLevel_open, braceLevel_nil] at this
  omega

/- A step that keeps the character moves the recogniser and the count alike. The brace that
   ends the search is no such step, which `inner` says. -/
theorem closing?_step {levels depth next : Nat} {c : Char} {s body rest : List Char}
    (inner : c = '}' → depth ≠ 0)
    (moves : ∀ t, ClosesFrom levels depth (c :: t) ↔ ClosesFrom levels next t)
    (step : closing? levels depth (c :: s) =
      (closing? levels next s).map fun (body, rest) => (c :: body, rest))
    (ih : ∀ body, closing? levels next s = some (body, rest) ↔
      s = body ++ '}' :: rest ∧ ClosesFrom levels next body) :
    closing? levels depth (c :: s) = some (body, rest) ↔
      c :: s = body ++ '}' :: rest ∧ ClosesFrom levels depth body := by
  rw [step, Option.map_eq_some_iff]
  constructor
  · intro h
    obtain ⟨⟨tail, behind⟩, taken, same⟩ := h
    obtain ⟨rfl, rfl⟩ := Prod.mk.inj same
    obtain ⟨rfl, closes⟩ := (ih tail).mp taken
    exact ⟨rfl, (moves tail).mpr closes⟩
  · intro h
    obtain ⟨split, closes⟩ := h
    cases body with
    | nil =>
      obtain ⟨rfl, _⟩ := List.cons.inj split
      exact absurd (closesFrom_nil.mp closes) (inner rfl)
    | cons d tail =>
      obtain ⟨rfl, rfl⟩ := List.cons.inj split
      exact ⟨(tail, rest), (ih tail).mpr ⟨rfl, (moves tail).mp closes⟩, rfl⟩

theorem closing?_eq_some {levels depth : Nat} {s body rest : List Char}
    (room : depth ≤ levels) :
    closing? levels depth s = some (body, rest) ↔
      s = body ++ '}' :: rest ∧ ClosesFrom levels depth body := by
  induction s generalizing depth body with
  | nil => simp [closing?]
  | cons c s ih =>
    by_cases close : c = '}'
    · subst close
      cases depth with
      | zero =>
        constructor
        · intro taken
          obtain ⟨rfl, rfl⟩ : [] = body ∧ s = rest := by simpa [closing?] using taken
          exact ⟨rfl, closesFrom_nil.mpr rfl⟩
        · intro h
          obtain ⟨split, closes⟩ := h
          cases body with
          | nil =>
            obtain ⟨_, rfl⟩ := List.cons.inj split
            simp [closing?]
          | cons d tail =>
            obtain ⟨rfl, _⟩ := List.cons.inj split
            exact absurd closes not_closesFrom_close
      | succ depth =>
        exact closing?_step (by simp) (fun _ => closesFrom_close room) (by simp [closing?])
          fun _ => ih (by omega)
    · by_cases opens : c = '{'
      · subst opens
        by_cases more : depth < levels
        · exact closing?_step (by simp) (fun _ => closesFrom_open room) (by simp [closing?, more])
            fun _ => ih more
        · have full : depth = levels := by omega
          subst full
          simp only [closing?, close, more, if_false, if_true, reduceCtorEq, false_iff]
          intro h
          obtain ⟨split, closes⟩ := h
          cases body with
          | nil => exact absurd (List.cons.inj split).1 close
          | cons d tail =>
            obtain ⟨rfl, _⟩ := List.cons.inj split
            exact absurd closes not_closesFrom_full
      · exact closing?_step (fun same => absurd same close)
          (fun _ => closesFrom_other room opens close) (by simp [closing?, close, opens])
          fun _ => ih room

theorem balanced_unique {levels levels' : Nat} {s t rest rest' : List Char}
    (balanced : Balanced levels s) (balanced' : Balanced levels' t)
    (same : s ++ '}' :: rest = t ++ '}' :: rest') : s = t ∧ rest = rest' := by
  have stops {n : Nat} {u v : List Char} (closed : braceLevel u = 0) :
      ¬ Balanced n (u ++ '}' :: v) := by
    intro longer
    have lowest := (longer.bounded (u ++ ['}']) (by simp)).1
    rw [braceLevel_append, closed, braceLevel_close, braceLevel_nil] at lowest
    omega
  rcases List.append_eq_append_iff.mp same with ⟨x, rfl, behind⟩ | ⟨x, rfl, behind⟩
  · cases x with
    | nil => exact ⟨by simp, (List.cons.inj behind).2⟩
    | cons c x =>
      obtain ⟨rfl, _⟩ := List.cons.inj behind
      exact absurd balanced' (stops balanced.closed)
  · cases x with
    | nil => exact ⟨by simp, (List.cons.inj behind).2.symm⟩
    | cons c x =>
      obtain ⟨rfl, _⟩ := List.cons.inj behind
      exact absurd balanced (stops balanced'.closed)

theorem balanced_nil (levels : Nat) : Balanced levels [] :=
  balanced_iff_closesFrom.mpr (closesFrom_nil.mpr rfl)

theorem balanced_append {levels : Nat} {s t : List Char} (left : Balanced levels s)
    (right : Balanced levels t) : Balanced levels (s ++ t) := by
  refine ⟨?_, by rw [braceLevel_append, left.closed, right.closed]; rfl⟩
  intro p front
  rcases List.prefix_or_prefix_of_prefix front (List.prefix_append s t) with inside | ⟨q, rfl⟩
  · exact left.bounded p inside
  · have tail := right.bounded q ((List.prefix_append_right_inj s).mp front)
    rw [braceLevel_append, left.closed]
    omega

theorem balanced_cons {levels : Nat} {c : Char} {s : List Char} (notOpen : c ≠ '{')
    (notClose : c ≠ '}') : Balanced levels (c :: s) ↔ Balanced levels s := by
  rw [balanced_iff_closesFrom, balanced_iff_closesFrom]
  exact closesFrom_other (Nat.zero_le _) notOpen notClose

theorem balanced_wrap {levels : Nat} {s : List Char} (inner : Balanced levels s) :
    Balanced (levels + 1) ('{' :: s ++ ['}']) := by
  have level : braceLevel ('{' :: s ++ ['}']) = 0 := by
    rw [braceLevel_append, braceLevel_open, inner.closed, braceLevel_close, braceLevel_nil]
    rfl
  refine ⟨?_, level⟩
  intro p front
  rcases List.prefix_concat_iff.mp front with rfl | front
  · rw [level]
    omega
  · rcases List.prefix_cons_iff.mp front with rfl | ⟨q, rfl, rest⟩
    · rw [braceLevel_nil]
      omega
    · have bounds := inner.bounded q rest
      rw [braceLevel_open]
      omega

theorem balanced_of_unbraced {levels : Nat} {s : List Char} (opens : '{' ∉ s) (closes : '}' ∉ s) :
    Balanced levels s := by
  induction s with
  | nil => exact balanced_nil levels
  | cons c s ih =>
    simp only [List.mem_cons, not_or] at opens closes
    exact (balanced_cons (Ne.symm opens.1) (Ne.symm closes.1)).mpr (ih opens.2 closes.2)

/-- The recogniser decides what the count says, with the brace behind the text to stop at. -/
theorem balanced_iff_closing? {levels : Nat} {s : List Char} :
    Balanced levels s ↔ closing? levels 0 (s ++ ['}']) = some (s, []) := by
  rw [closing?_eq_some (Nat.zero_le levels), balanced_iff_closesFrom]
  simp

instance (levels : Nat) (s : List Char) : Decidable (Balanced levels s) :=
  decidable_of_iff _ balanced_iff_closing?.symm

end InfraLint.Source
