import InfraLint.Proofs.Json.Answers

/-!
Numbers read in their places. What is made of a number depends on its own text, and on nothing that
follows it.
-/
namespace InfraLint.Json.Reader
open Text

variable {α β : Type} {r : Reader α} {f : α → Reader β} {a : α} {negative : Bool}
  {significand : Nat} {scale : Int} {s t rest ds sign exp : List Char} {letter : Char}

def Stops (rest : List Char) : Prop :=
  ∀ x, rest.head? = some x → x.isDigit = false ∧ x ≠ '.' ∧ x ≠ 'e' ∧ x ≠ 'E'

/-- There is one answer, wherever the text stands and whatever follows it. -/
def Settled (r : Reader α) (s : List Char) : Prop :=
  ∃ o, ∀ rest, Stops rest → Answers r (s ++ rest) o rest

theorem Stops.noDigit (stops : Stops rest) : ∀ x, rest.head? = some x → x.isDigit = false :=
  fun x head => (stops x head).1

theorem Settled.after (first : ∀ rest, Stops rest → Reads r (s ++ rest) a (t ++ rest))
    (second : Settled (f a) t) : Settled (r >>= f) s := by
  obtain ⟨o, answers⟩ := second
  exact ⟨o, fun rest stops => (first rest stops).answers_bind (answers rest stops)⟩

theorem settled_pure (a : α) : Settled (pure a) [] :=
  ⟨some a, fun rest _ => reads_pure a rest⟩

theorem settled_of_fails (fails : ∀ rest, Fails r (s ++ rest)) : Settled r s :=
  ⟨none, fun rest _ => fails rest⟩

theorem reads_peekDigits (digits : Digits ds)
    (stops : ∀ x, rest.head? = some x → x.isDigit = false) :
    Reads peekDigits (ds ++ rest) ds (ds ++ rest) := by
  intro place
  refine ⟨place, ?_⟩
  rw [peekDigits, (takeWhile_append_stop digits stops).1]

theorem reads_drop (count : Nat) (s : List Char) : Reads (take count) s () (s.drop count) :=
  fun place => ⟨⟨place.line, place.column + count⟩, rfl⟩

theorem reads_take (ds rest : List Char) : Reads (take ds.length) (ds ++ rest) () rest := by
  have past := reads_drop ds.length (ds ++ rest)
  rwa [List.drop_left] at past

theorem settled_float (negative : Bool) (significand : Nat) (exponent : Int) :
    Settled (float negative significand exponent) [] := by
  unfold float
  dsimp only
  split
  · exact settled_pure _
  · exact settled_of_fails fun rest => fails_fail _ rest

theorem settled_exponent (isSign : Sign sign) (filled : ds ≠ []) (digits : Digits ds) :
    Settled (exponent negative significand scale) (letter :: (sign ++ ds)) := by
  obtain ⟨d, ds, rfl⟩ := List.exists_cons_of_ne_nil filled
  have unsigned := digit_not_sign (digits d List.mem_cons_self)
  unfold exponent
  extract_lets behind
  have settled (down : Bool) : Settled (behind down) (d :: ds) := by
    refine .after (fun rest stops => reads_peekDigits digits stops.noDigit) ?_
    refine .after (a := some d) (fun rest _ => reads_peek _) ?_
    dsimp only
    split
    · rename_i fits
      rw [fits]
      exact .after (fun rest _ => reads_take _ rest) (settled_float _ _ _)
    · split
      · exact settled_of_fails fun rest => (reads_drop _ _).fails_bind (fails_fail _ _)
      · exact .after (fun rest _ => reads_take _ rest) (settled_pure _)
  refine .after (fun rest _ => reads_advance _ _) ?_
  cases isSign with
  | none =>
    refine .after (a := some d) (fun rest _ => reads_peek _) ?_
    split
    · rename_i same
      exact absurd (Option.some.inj same) unsigned.2
    · rename_i same
      exact absurd (Option.some.inj same) unsigned.1
    · exact settled false
  | plus =>
    refine .after (a := some '+') (fun rest _ => reads_peek _) ?_
    exact .after (fun rest _ => reads_advance _ _) (settled false)
  | minus =>
    refine .after (a := some '-') (fun rest _ => reads_peek _) ?_
    exact .after (fun rest _ => reads_advance _ _) (settled true)

def EndsBefore (next : Option Char) : Prop :=
  ∀ x, next = some x → x ≠ '.' ∧ x ≠ 'e' ∧ x ≠ 'E'

/-- The reader goes on with an exponent if a letter for one comes next, and else with what settles
the number. -/
structure Ending (next : Option Char → Reader Json) : Prop where
  letter : ∀ letter, letter = 'e' ∨ letter = 'E' → ∃ negative significand scale,
    next (some letter) = exponent negative significand scale
  ends : ∀ x, EndsBefore x → next x = next none
  settled : Settled (next none) []

theorem Ending.reads {next : Option Char → Reader Json} (number : Ending next)
    (text : ExponentText exp) : Settled (do next (← peek)) exp := by
  cases text with
  | none =>
    obtain ⟨o, answers⟩ := number.settled
    refine ⟨o, fun rest stops => (reads_peek _).answers_bind ?_⟩
    rw [List.nil_append, number.ends _ fun x head => (stops x head).2]
    exact answers rest stops
  | @given letter sign ds isLetter isSign filled digits =>
    obtain ⟨negative, significand, scale, same⟩ := number.letter letter isLetter
    refine .after (a := some letter) (fun rest _ => reads_peek _) ?_
    rw [same]
    exact settled_exponent isSign filled digits

theorem stops_exponent (text : ExponentText exp) (stops : Stops rest) :
    ∀ x, (exp ++ rest).head? = some x → x.isDigit = false ∧ x ≠ '.' := by
  intro x head
  rw [List.head?_append] at head
  cases first : exp.head? with
  | none =>
    rw [first, Option.none_or] at head
    exact ⟨(stops x head).1, (stops x head).2.1⟩
  | some y =>
    rw [first] at head
    exact Numeral.exponent_stops text x (first.trans head)

theorem settled_fraction (filled : ds ≠ []) (digits : Digits ds) (text : ExponentText exp) :
    Settled (fraction negative significand scale) ('.' :: (ds ++ exp)) := by
  obtain ⟨d, ds, rfl⟩ := List.exists_cons_of_ne_nil filled
  unfold fraction
  refine .after (fun rest _ => reads_advance _ _) ?_
  have digitsAhead (rest : List Char) (stops : Stops rest) :
      Reads peekDigits ((d :: ds ++ exp) ++ rest) (d :: ds) ((d :: ds ++ exp) ++ rest) := by
    rw [List.append_assoc]
    exact reads_peekDigits digits fun x head => (stops_exponent text stops x head).1
  have digitsTaken (rest : List Char) (_ : Stops rest) :
      Reads (take (d :: ds).length) ((d :: ds ++ exp) ++ rest) () (exp ++ rest) := by
    rw [List.append_assoc]
    exact reads_take _ _
  refine .after digitsAhead (.after (a := some d) (fun rest _ => reads_peek _) ?_)
  dsimp only
  refine .after digitsTaken (Ending.reads ⟨?_, ?_, settled_float _ _ _⟩ text)
  · intro letter isLetter
    exact ⟨_, _, _, by rcases isLetter with rfl | rfl <;> rfl⟩
  · intro x before
    split
    · exact absurd rfl (before 'e' rfl).2.1
    · exact absurd rfl (before 'E' rfl).2.2
    · rfl

theorem settled_behind {next : Option Char → Reader Json} {fraction : List Char}
    (isFraction : FractionText fraction) (text : ExponentText exp)
    (points : ∃ negative significand scale,
      next (some '.') = Reader.fraction negative significand scale)
    (number : Ending next) : Settled (do next (← peek)) (fraction ++ exp) := by
  cases isFraction with
  | none => exact number.reads text
  | given filled digits =>
    obtain ⟨negative, significand, scale, same⟩ := points
    refine .after (a := some '.') (fun rest _ => reads_peek _) ?_
    rw [same]
    exact settled_fraction filled digits text

variable {fraction : List Char}

theorem settled_afterInteger (isFraction : FractionText fraction) (text : ExponentText exp) :
    Settled (afterInteger negative significand) (fraction ++ exp) := by
  unfold afterInteger
  refine settled_behind isFraction text ⟨_, _, _, rfl⟩ ⟨?_, ?_, ?_⟩
  · intro letter isLetter
    exact ⟨_, _, _, by rcases isLetter with rfl | rfl <;> rfl⟩
  · intro x before
    split
    · exact absurd rfl (before '.' rfl).1
    · exact absurd rfl (before 'e' rfl).2.1
    · exact absurd rfl (before 'E' rfl).2.2
    · rfl
  · dsimp only
    split
    · exact settled_pure _
    · split <;> exact settled_pure _

theorem stops_fraction (isFraction : FractionText fraction) (text : ExponentText exp)
    (stops : Stops rest) :
    ∀ x, (fraction ++ (exp ++ rest)).head? = some x → x.isDigit = false := by
  cases isFraction with
  | none => exact fun x head => (stops_exponent text stops x head).1
  | given =>
    intro x head
    obtain rfl := Option.some.inj head
    rfl

theorem Settled.afterDigits {f : List Char → Option Char → Reader Json} {d : Char}
    (digits : Digits (d :: ds)) (isFraction : FractionText fraction) (text : ExponentText exp)
    (behind : Settled (f (d :: ds) (some d)) (d :: ds ++ (fraction ++ exp))) :
    Settled (do f (← peekDigits) (← peek)) (d :: ds ++ (fraction ++ exp)) := by
  have ahead (rest : List Char) (_ : Stops rest) :
      Reads peek (d :: ds ++ (fraction ++ exp) ++ rest) (some d)
        (d :: ds ++ (fraction ++ exp) ++ rest) := reads_peek _
  refine .after (fun rest stops => ?_) (.after ahead behind)
  rw [List.append_assoc, List.append_assoc]
  exact reads_peekDigits digits (stops_fraction isFraction text stops)

theorem settled_number {text : List Char} (isNumber : NumberText text) :
    Settled (number negative) text := by
  obtain ⟨whole, fraction, exp, isWhole, isFraction, isExponent, rfl⟩ := isNumber.parts
  unfold number
  cases isWhole with
  | zero =>
    refine .afterDigits (by simp [Digits]) isFraction isExponent ?_
    exact .after (t := fraction ++ exp) (fun rest _ => reads_advance _ _)
      (settled_afterInteger isFraction isExponent)
  | @more c ds first nonzero digits =>
    have all : Digits (c :: ds) := List.forall_mem_cons.mpr ⟨first, digits⟩
    refine .afterDigits all isFraction isExponent ?_
    have taken (rest : List Char) (_ : Stops rest) :
        Reads (take (c :: ds).length) ((c :: ds ++ (fraction ++ exp)) ++ rest) ()
          ((fraction ++ exp) ++ rest) := by
      rw [List.append_assoc]
      exact reads_take _ _
    split
    · contradiction
    · contradiction
    · rename_i same
      exact absurd (List.cons.inj same).1 nonzero
    · rename_i same
      exact absurd (List.cons.inj same).1 nonzero
    · obtain ⟨value, count⟩ := digitsBelow (bitBound 64) 0 (c :: ds)
      refine .after taken ?_
      split
      · exact settled_afterInteger isFraction isExponent
      · refine settled_behind isFraction isExponent ⟨_, _, _, rfl⟩ ⟨?_, ?_, settled_float _ _ _⟩
        · intro letter isLetter
          exact ⟨_, _, _, by rcases isLetter with rfl | rfl <;> rfl⟩
        · intro x before
          split
          · exact absurd rfl (before '.' rfl).1
          · exact absurd rfl (before 'e' rfl).2.1
          · exact absurd rfl (before 'E' rfl).2.2
          · rfl

def outcome? (r : Reader α) (s : List Char) : Option α :=
  match r (.start s) with
  | .ok (a, _) => some a
  | .error _ => none

theorem Settled.answers (settled : Settled r s) (stops : Stops rest) :
    Answers r (s ++ rest) (outcome? r s) rest := by
  obtain ⟨o, answers⟩ := settled
  have alone := answers [] (by simp [Stops])
  rw [List.append_nil] at alone
  have same : outcome? r s = o := by
    unfold outcome?
    cases o with
    | none =>
      obtain ⟨failure, failed⟩ := alone ⟨1, 0⟩
      simp only [Cursor.start, failed]
    | some a =>
      obtain ⟨last, taken⟩ := alone ⟨1, 0⟩
      simp only [Cursor.start, taken]
  rw [same]
  exact answers rest stops

end InfraLint.Json.Reader
