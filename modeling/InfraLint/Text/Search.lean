/-!
Finding parts of a text. A recogniser takes the text from some position on and, where it
succeeds, hands back what it read and the text behind it. `findAll` runs one from left to right
and never lets two finds overlap; `find?` stops at the first.
-/
namespace InfraLint.Text

def after? : List Char → List Char → Option (List Char)
  | [], s => some s
  | _ :: _, [] => none
  | a :: w, b :: s => if a = b then after? w s else none

theorem after?_eq_some {w s r : List Char} : after? w s = some r ↔ s = w ++ r := by
  induction w generalizing s with
  | nil => simp [after?]
  | cons a w ih =>
    cases s with
    | nil => simp [after?]
    | cons b s =>
      by_cases h : a = b
      · simp [after?, h, ih]
      · simp [after?, h, Ne.symm h]

def occurs (w : List Char) : List Char → Bool
  | [] => w.isEmpty
  | c :: s => (after? w (c :: s)).isSome || occurs w s

theorem occurs_iff {w s : List Char} : occurs w s = true ↔ ∃ u v, s = u ++ w ++ v := by
  induction s with
  | nil => cases w <;> simp [occurs]
  | cons c s ih =>
    rw [occurs, Bool.or_eq_true, ih, Option.isSome_iff_exists]
    constructor
    · rintro (⟨r, h⟩ | ⟨u, v, h⟩)
      · exact ⟨[], r, by simpa using after?_eq_some.1 h⟩
      · exact ⟨c :: u, v, by simp [h]⟩
    · rintro ⟨u, v, h⟩
      cases u with
      | nil => exact Or.inl ⟨v, after?_eq_some.2 (by simpa using h)⟩
      | cons d u =>
        simp only [List.cons_append, List.cons.injEq] at h
        exact Or.inr ⟨u, v, h.2⟩

def quoted? (q : Char) : List Char → Option (List Char × List Char)
  | [] => none
  | c :: s =>
    if c = q then
      match s.takeWhile (· != q), s.dropWhile (· != q) with
      | d :: t, _ :: r => some (d :: t, r)
      | _, _ => none
    else none

def find? (p : Option Char → List Char → Option α) (before : Option Char) :
    List Char → Option α
  | [] => p before []
  | c :: s =>
    match p before (c :: s) with
    | some a => some a
    | none => find? p (some c) s

/-- All successes from left to right. After one the search goes on behind it: `skip` counts the
characters of the last find that are still to be passed over. -/
def findAllFrom (p : List Char → Option (α × List Char)) : Nat → List Char → List α
  | _, [] => []
  | skip + 1, _ :: s => findAllFrom p skip s
  | 0, c :: s =>
    match p (c :: s) with
    | none => findAllFrom p 0 s
    | some (a, rest) => a :: findAllFrom p (s.length - rest.length) s

def findAll (p : List Char → Option (α × List Char)) (s : List Char) : List α :=
  findAllFrom p 0 s

theorem findAllFrom_skip (p : List Char → Option (α × List Char)) (n : Nat) (s : List Char) :
    findAllFrom p n s = findAll p (s.drop n) := by
  induction s generalizing n with
  | nil => simp [findAllFrom, findAll]
  | cons c s ih =>
    cases n with
    | zero => rfl
    | succ n => simpa [findAllFrom] using ih n

theorem findAll_cons_some {p : List Char → Option (α × List Char)} {c : Char}
    {s rest read : List Char} {a : α} (h : p (c :: s) = some (a, rest)) (split : s = read ++ rest) :
    findAll p (c :: s) = a :: findAll p rest := by
  subst split
  simp only [findAll, findAllFrom, h]
  rw [findAllFrom_skip]
  simp [findAll]

end InfraLint.Text

def String.occursIn (part text : String) : Bool :=
  InfraLint.Text.occurs part.toList text.toList
