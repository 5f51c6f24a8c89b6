import InfraLint.Proofs.Json.Grammar

/-!
What a reader answers on a text, be it a value or a refusal, wherever in a document the text stands.
-/
namespace InfraLint.Json.Reader
open Text

variable {α β : Type} {r : Reader α} {f : α → Reader β} {g : α → Option β} {o : Option α}
  {o' : Option β} {a : α} {s t rest u w : List Char}

/-- The text is refused, whatever comes before it. -/
def Fails (r : Reader α) (s : List Char) : Prop :=
  ∀ place, ∃ failure, r ⟨place, s⟩ = .error failure

def Answers (r : Reader α) (s : List Char) : Option α → List Char → Prop
  | some a, rest => Reads r s a rest
  | none, _ => Fails r s

theorem Fails.bind (fails : Fails r s) (f : α → Reader β) : Fails (r >>= f) s := by
  intro place
  obtain ⟨failure, failed⟩ := fails place
  exact ⟨failure, by simp [Bind.bind, StateT.bind, failed, Except.bind]⟩

theorem Reads.fails_bind (first : Reads r s a t) (fails : Fails (f a) t) : Fails (r >>= f) s := by
  intro place
  obtain ⟨middle, taken⟩ := first place
  obtain ⟨failure, failed⟩ := fails middle
  exact ⟨failure, by rw [bind_of_ok taken, failed]⟩

theorem fails_fail (fault : Fault) (s : List Char) : Fails (fail fault : Reader α) s :=
  fun _ => ⟨_, rfl⟩

theorem fails_failAhead (fault : Fault) (s : List Char) : Fails (failAhead fault : Reader α) s :=
  fun _ => ⟨_, rfl⟩

theorem fails_wait (fault : Fault) (s : List Char) : Fails (wait fault : Reader α) s :=
  fun _ => ⟨_, rfl⟩

theorem fails_of_yields (never : Yields (fun _ => False) r) (s : List Char) : Fails r s := by
  intro place
  cases taken : r ⟨place, s⟩ with
  | error failure => exact ⟨failure, rfl⟩
  | ok pair => exact (never _ _ _ taken).elim

theorem Reads.answers_bind (first : Reads r s a t) (second : Answers (f a) t o' u) :
    Answers (r >>= f) s o' u := by
  cases o' with
  | none => exact first.fails_bind second
  | some b => exact first.bind second

theorem Answers.bind (first : Answers r s o t)
    (second : ∀ a, o = some a → Answers (f a) t (g a) u) : Answers (r >>= f) s (o.bind g) u := by
  cases o with
  | none => exact Fails.bind first f
  | some a => exact Reads.answers_bind first (second a rfl)

theorem Answers.fails_bind (first : Answers r s o t) (second : ∀ a, Fails (f a) t) :
    Fails (r >>= f) s := by
  cases o with
  | none => exact Fails.bind first f
  | some a => exact Reads.fails_bind first (second a)

theorem Answers.map (first : Answers r s o t) (h : α → β) :
    Answers (do return h (← r)) s (o.map h) t := by
  rw [Option.map_eq_bind]
  exact first.bind fun a _ => reads_pure (h a) t

theorem Fails.enclosed {ending : Char} (fails : Fails r s) : Fails (enclosed r ending) s := by
  intro place
  obtain ⟨failure, failed⟩ := fails place
  cases failure with
  | placed fault at_ => exact ⟨.placed fault at_, by simp [Reader.enclosed, failed]⟩
  | waiting fault c =>
    exact ⟨.placed fault (endedAt ending c).place, by simp [Reader.enclosed, failed]⟩

theorem Answers.congr {r' : Reader α} (answers : Answers r s o t)
    (same : ∀ place, r' ⟨place, s⟩ = r ⟨place, s⟩) : Answers r' s o t := by
  cases o with
  | none => exact fun place => by rw [same]; exact answers place
  | some a => exact fun place => by rw [same]; exact answers place

theorem answers_enclosedList (white : AllWhite w) (content : Answers r s o (w ++ ']' :: rest)) :
    Answers (enclosed r ']') s o rest := by
  cases o with
  | none => exact Fails.enclosed content
  | some a => exact reads_enclosedList white content

theorem answers_enclosedObject (white : AllWhite w) (content : Answers r s o (w ++ '}' :: rest)) :
    Answers (enclosed r '}') s o rest := by
  cases o with
  | none => exact Fails.enclosed content
  | some a => exact reads_enclosedObject white content

/-! Strings -/

theorem shortEscape?_ne_u {x c : Char} (known : shortEscape? x = some c) : x ≠ 'u' := by
  rintro rfl
  cases known

/-- The letter that a second half has to begin with. -/
def expected (x : Char) : Reader Unit := do
  match ← peek with
  | none => fail .eofInString
  | some y => if x = y then advance else failAhead .endOfHexEscape

theorem pure_at (a : α) (c : Cursor) : (pure a : Reader α) c = .ok (a, c) := rfl

theorem lowSurrogate_eq (high : Nat) : lowSurrogate high = (do
    expected '\\'
    expected 'u'
    let low ← hex4
    if 0xDC00 ≤ low && low ≤ 0xDFFF then
      return Char.ofNat (0x10000 + (high - 0xD800) * 0x400 + (low - 0xDC00))
    else fail .loneSurrogate) := by
  funext ⟨place, s⟩
  cases s with
  | nil => rfl
  | cons x s =>
    by_cases first : '\\' = x
    · subst first
      cases s with
      | nil => rfl
      | cons y s =>
        by_cases second : 'u' = y
        · subst second
          rfl
        · simp [lowSurrogate, expected, peek, second, bind, StateT.bind, Except.bind, advance,
            failAhead, Cursor.advance, pure_at]
    · simp [lowSurrogate, expected, peek, first, bind, StateT.bind, Except.bind, failAhead]

theorem reads_expected (x : Char) (s : List Char) : Reads (expected x) (x :: s) () s := by
  refine (reads_peek _).bind ?_
  simpa using reads_advance x s

theorem fails_expected {x : Char} (other : ∀ y, s.head? = some y → x ≠ y) :
    Fails (expected x) s := by
  refine (reads_peek _).fails_bind ?_
  cases s with
  | nil => exact fails_fail _ _
  | cons y s => simpa [other y rfl] using fails_failAhead .endOfHexEscape (y :: s)

theorem answers_lowSurrogate {a b c d : Char} {low : Nat} (hex : unit? a b c d = some low)
    (high : Nat) (s : List Char) :
    Answers (lowSurrogate high) ('\\' :: 'u' :: a :: b :: c :: d :: s) (combined? high low) s := by
  rw [lowSurrogate_eq]
  refine (reads_expected _ _).answers_bind ((reads_expected _ _).answers_bind ?_)
  refine (reads_unit hex s).answers_bind ?_
  unfold combined?
  split
  · exact reads_pure _ s
  · exact fails_fail _ s

/-- No half of a character comes next. -/
theorem fails_lowSurrogate (high : Nat) (other : ∀ t, s ≠ '\\' :: 'u' :: t) :
    Fails (lowSurrogate high) s := by
  rw [lowSurrogate_eq]
  by_cases first : ∃ t, s = '\\' :: t
  · obtain ⟨t, rfl⟩ := first
    refine (reads_expected _ t).fails_bind (Fails.bind (fails_expected ?_) _)
    rintro y head rfl
    obtain ⟨t', rfl⟩ := List.head?_eq_some_iff.mp head
    exact other t' rfl
  · refine Fails.bind (fails_expected ?_) _
    rintro y head rfl
    exact first (List.head?_eq_some_iff.mp head)

variable {c : Char} {str : Option String} {front : List Char} {fuel : Nat}

theorem answers_plain (visible : 32 ≤ c.toNat) (noQuote : c ≠ '"') (noEscape : c ≠ '\\')
    (behind : Answers (stringFrom fuel (c :: front)) s str rest) :
    Answers (stringFrom (fuel + 1) front) (c :: s) str rest := by
  refine (reads_peek _).answers_bind ?_
  have step : Answers (do advance; stringFrom fuel (c :: front)) (c :: s) str rest :=
    (reads_advance c s).answers_bind behind
  have noControl : ¬ c.toNat < 32 := by omega
  simpa [noQuote, noEscape, noControl] using step

theorem answers_escaped {o : Option Char} {made : Char → Option String}
    (escaped : Answers escape s o t)
    (behind : ∀ c, o = some c → Answers (stringFrom fuel (c :: front)) t (made c) rest) :
    Answers (stringFrom (fuel + 1) front) ('\\' :: s) (o.bind made) rest :=
  (reads_peek _).answers_bind ((reads_advance _ _).answers_bind (escaped.bind behind))

theorem reads_escape_unit {a b c d : Char} {n : Nat} (hex : unit? a b c d = some n)
    (noLow : ¬ (0xDC00 ≤ n && n ≤ 0xDFFF) = true) (noHigh : ¬ (0xD800 ≤ n && n ≤ 0xDBFF) = true)
    (s : List Char) : Reads escape ('u' :: a :: b :: c :: d :: s) (Char.ofNat n) s := by
  refine (reads_peek _).bind ((reads_advance _ _).bind ((reads_unit hex s).bind ?_))
  rw [if_neg noLow, if_neg noHigh]
  exact reads_pure _ s

theorem fails_escape_low {a b c d : Char} {n : Nat} (hex : unit? a b c d = some n)
    (low : (0xDC00 ≤ n && n ≤ 0xDFFF) = true) (s : List Char) :
    Fails escape ('u' :: a :: b :: c :: d :: s) := by
  refine (reads_peek _).fails_bind ((reads_advance _ _).fails_bind ?_)
  refine (reads_unit hex s).fails_bind ?_
  rw [if_pos low]
  exact fails_fail _ s

theorem answers_escape_high {a b c d : Char} {n : Nat} {o : Option Char}
    (hex : unit? a b c d = some n) (noLow : ¬ (0xDC00 ≤ n && n ≤ 0xDFFF) = true)
    (high : (0xD800 ≤ n && n ≤ 0xDBFF) = true) (second : Answers (lowSurrogate n) s o t) :
    Answers escape ('u' :: a :: b :: c :: d :: s) o t := by
  refine (reads_peek _).answers_bind ((reads_advance _ _).answers_bind
    ((reads_unit hex s).answers_bind ?_))
  rw [if_neg noLow, if_pos high]
  exact second

/-- A piece that is no unit does not begin as one. -/
theorem other_piece {pieces : List Piece}
    (other : ∀ a b c d n hex rest, pieces ≠ .unit a b c d n hex :: rest) (t : List Char) :
    spelled pieces ++ '"' :: rest ≠ '\\' :: 'u' :: t := by
  intro same
  cases pieces with
  | nil => cases same
  | cons piece pieces =>
    cases piece with
    | plain c visible noQuote noEscape => exact noEscape (List.cons.inj same).1
    | short letter c known =>
      exact shortEscape?_ne_u known (List.cons.inj (List.cons.inj same).2).1
    | unit a b c d n hex => exact other a b c d n hex pieces rfl

/-- What has been read, last character first, with what the pieces add to it. -/
def completed? (front : List Char) (pieces : List Piece) : Option String :=
  (decoded? pieces).map fun cs => .ofList (front.reverse ++ cs)

theorem completed?_cons {piece : Piece} {pieces left : List Piece} {o : Option Char}
    (first : decoded? (piece :: pieces) = o.bind fun c => (decoded? left).map (c :: ·)) :
    completed? front (piece :: pieces) = o.bind fun c => completed? (c :: front) left := by
  rw [completed?, first, Option.map_bind]
  congr 1
  funext c
  simp [completed?, Function.comp_def]

theorem decoded?_unit {a b c d : Char} {n : Nat} (hex : unit? a b c d = some n)
    (pieces : List Piece) : decoded? (.unit a b c d n hex :: pieces) =
      if 0xDC00 ≤ n && n ≤ 0xDFFF then none
      else if 0xD800 ≤ n && n ≤ 0xDBFF then
        match pieces with
        | .unit _ _ _ _ m _ :: pieces =>
          (combined? n m).bind fun c => (decoded? pieces).map (c :: ·)
        | _ => none
      else (decoded? pieces).map (Char.ofNat n :: ·) :=
  (decoded?.eq_def _).trans rfl

theorem refused_escape (fails : Fails escape s) : Fails (stringFrom (fuel + 1) front) ('\\' :: s) :=
  (reads_peek _).fails_bind ((reads_advance _ _).fails_bind (fails.bind _))

/- By the cases of what the pieces make up, two units at a time where they are halves. -/
theorem answers_stringFrom {pieces : List Piece} (front rest : List Char)
    (enough : pieces.length < fuel) :
    Answers (stringFrom fuel front) (spelled pieces ++ '"' :: rest) (completed? front pieces)
      rest := by
  obtain ⟨fuel, rfl⟩ : ∃ n, fuel = n + 1 := ⟨fuel - 1, by omega⟩
  have more {piece : Piece} {pieces : List Piece} {fuel : Nat}
      (enough : (piece :: pieces).length < fuel + 1) : ∃ n, fuel = n + 1 ∧ pieces.length < n + 1 :=
    ⟨fuel - 1, by simp at enough; omega, by simp at enough; omega⟩
  induction pieces using decoded?.induct generalizing fuel front with
  | case1 =>
    simp only [completed?, decoded?, Option.map_some, List.append_nil]
    exact (reads_peek _).bind ((reads_advance _ _).bind (reads_pure _ _))
  | case2 c visible noQuote noEscape pieces ih =>
    obtain ⟨fuel, rfl, left⟩ := more enough
    rw [completed?_cons (o := some c) rfl]
    exact answers_plain visible noQuote noEscape (ih _ _ left)
  | case3 letter c known pieces ih =>
    obtain ⟨fuel, rfl, left⟩ := more enough
    rw [completed?_cons (o := some c) rfl]
    refine answers_escaped (reads_shortEscape known) ?_
    intro c' same
    obtain rfl := Option.some.inj same
    exact ih _ _ left
  | case4 a b c d n hex pieces low =>
    rw [completed?, decoded?_unit, if_pos low]
    exact refused_escape (fails_escape_low hex low _)
  | case5 a b c d n hex noLow high a' b' c' d' m hex' pieces ih =>
    have first := decoded?_unit hex (.unit a' b' c' d' m hex' :: pieces)
    rw [if_neg noLow, if_pos high] at first
    obtain ⟨fuel, rfl, left⟩ := more enough
    rw [completed?_cons first]
    refine answers_escaped (answers_escape_high hex noLow high (answers_lowSurrogate hex' n _)) ?_
    intro c made
    exact ih _ _ (Nat.lt_of_succ_lt left)
  | case6 a b c d n hex pieces noLow high other =>
    have none : decoded? (.unit a b c d n hex :: pieces) = none := by
      rw [decoded?_unit, if_neg noLow, if_pos high]
      split
      · exact (other _ _ _ _ _ _ _ rfl).elim
      · rfl
    rw [completed?, none]
    refine refused_escape (answers_escape_high (o := .none) (t := rest) hex noLow high ?_)
    exact fails_lowSurrogate n (other_piece fun _ _ _ _ _ _ _ same => other _ _ _ _ _ _ _ same)
  | case7 a b c d n hex pieces noLow noHigh ih =>
    have first := decoded?_unit hex pieces
    rw [if_neg noLow, if_neg noHigh] at first
    obtain ⟨fuel, rfl, left⟩ := more enough
    rw [completed?_cons (o := some (Char.ofNat n)) first]
    refine answers_escaped (reads_escape_unit hex noLow noHigh _) ?_
    intro c' same
    obtain rfl := Option.some.inj same
    exact ih _ _ left

theorem answers_string (pieces : List Piece) (rest : List Char) :
    Answers Reader.string (spelled pieces ++ '"' :: rest) (string? pieces) rest := by
  have enough : pieces.length < (spelled pieces ++ '"' :: rest).length + 1 := by
    have := length_le_spelled pieces
    rw [List.length_append]
    omega
  exact (answers_stringFrom [] rest enough).congr fun _ => rfl

end InfraLint.Json.Reader
