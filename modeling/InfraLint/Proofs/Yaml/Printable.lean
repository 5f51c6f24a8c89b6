import InfraLint.Proofs.Yaml.Gap

/-!
What the style of a text asks of it. Only printable characters are written, whatever the texts
hold.
-/
namespace InfraLint.Yaml
namespace Layout

variable {cs : List Char} {c : Char}

/-! The choice of style -/

/-- What a style asks of the text that is written in it. -/
def IsSuited (cs : List Char) : Quoting → Prop
  | .plain => allowsPlain cs = true ∧ cs ≠ []
  | .single => allowsSingleQuotes cs = true ∧ '\n' ∉ cs
  | .double => True
  | .literal => (∀ c ∈ cs, isPrintable c = true) ∧ cs ≠ []

theorem given_of_plain {s : String} (noQuotes : needsQuotes s = false) : s.toList ≠ [] := by
  intro isNil
  obtain rfl : s = "" := String.toList_eq_nil_iff.mp isNil
  exact absurd noQuotes (by decide)

theorem isSuited_quoting (s : String) : IsSuited s.toList (quoting s) := by
  simp only [quoting, List.contains_iff_mem, Bool.and_eq_true, Bool.not_eq_true']
  split
  case isTrue feed =>
    split
    case isTrue allowed =>
      simp only [allowsLiteral, Bool.and_eq_true, List.all_eq_true] at allowed
      exact ⟨allowed.1.1, List.ne_nil_of_mem feed⟩
    case isFalse => trivial
  case isFalse noFeed =>
    split
    case isTrue plain => exact ⟨plain.2, given_of_plain plain.1⟩
    case isFalse =>
      split
      case isTrue allowed => exact ⟨allowed, noFeed⟩
      case isFalse => trivial

/-! Printable characters -/

theorem isAllowed_of_printable (printable : isPrintable c = true) : isAllowed c = true := by
  simp only [isPrintable, isAllowed, Bool.or_eq_true, Bool.and_eq_true, decide_eq_true_eq,
    beq_iff_eq, bne_iff_ne] at printable ⊢
  omega

theorem printable_spaces (n : Nat) : ∀ c ∈ spaces n, isPrintable c = true := by
  intro c member
  obtain rfl := List.eq_of_mem_replicate member
  decide

theorem printable_hexDigits (count n : Nat) : ∀ c ∈ hexDigits count n, isPrintable c = true := by
  have isDigit : ∀ d < 16, isPrintable (hexDigit d) = true := by decide
  induction count generalizing n with
  | zero => simp [hexDigits]
  | succ count ih =>
    intro c member
    simp only [hexDigits, List.mem_append, List.mem_singleton] at member
    rcases member with before | rfl
    · exact ih (n / 16) c before
    · exact isDigit (n % 16) (Nat.mod_lt n (by decide))

theorem printable_escapedChar (c : Char) : ∀ x ∈ escapedChar c, isPrintable x = true := by
  have byNumber {x : Char} (printable : isPrintable x = true) (count : Nat) :
      ∀ y ∈ '\\' :: x :: hexDigits count c.toNat, isPrintable y = true :=
    List.forall_mem_cons.mpr ⟨by decide, List.forall_mem_cons.mpr
      ⟨printable, printable_hexDigits count c.toNat⟩⟩
  unfold escapedChar
  split
  case isTrue same =>
    simp only [Bool.and_eq_true] at same
    simpa using same.1.1.1
  case isFalse =>
    split
    case h_1 x short =>
      have all : ∀ p ∈ shortEscapes, isPrintable p.2 = true := by decide
      obtain ⟨before, after, split, _⟩ := List.lookup_eq_some_iff.mp short
      simpa using And.intro (by decide) (all (c, x) (by simp [split]))
    case h_2 =>
      simp only
      split
      · exact byNumber (by decide) 2
      · split
        · exact byNumber (by decide) 4
        · exact byNumber (by decide) 8

theorem printable_singleQuoted {indent : Nat} {broken : Bool}
    (printable : ∀ c ∈ cs, isPrintable c = true) :
    ∀ c ∈ singleQuoted indent broken cs, isPrintable c = true := by
  have indented (broken : Bool) :
      ∀ c ∈ (if broken then spaces indent else []), isPrintable c = true := by
    cases broken
    · simp
    · exact printable_spaces indent
  have quote : isPrintable '\'' = true := by decide
  induction cs generalizing broken with
  | nil =>
    rw [singleQuoted, List.forall_mem_append]
    exact ⟨indented broken, by simpa using quote⟩
  | cons c cs ih =>
    obtain ⟨first, others⟩ := List.forall_mem_cons.mp printable
    rw [singleQuoted]
    split
    · exact List.forall_mem_cons.mpr ⟨first, ih others⟩
    · rw [List.forall_mem_append, List.forall_mem_append]
      refine ⟨⟨indented broken, ?_⟩, ih others⟩
      split
      · simpa using quote
      · simpa using first

theorem printable_literalLines {indent : Nat} {broken : Bool}
    (printable : ∀ c ∈ cs, isPrintable c = true) :
    ∀ c ∈ literalLines indent broken cs, isPrintable c = true := by
  induction cs generalizing broken with
  | nil =>
    have feed : isPrintable '\n' = true := by decide
    cases broken <;> simp [literalLines, feed]
  | cons c cs ih =>
    obtain ⟨first, others⟩ := List.forall_mem_cons.mp printable
    rw [literalLines]
    split
    · exact List.forall_mem_cons.mpr ⟨first, ih others⟩
    · rw [List.forall_mem_append]
      refine ⟨?_, List.forall_mem_cons.mpr ⟨first, ih others⟩⟩
      cases broken
      · simp
      · exact printable_spaces indent

theorem printable_literalHeader (cs : List Char) :
    ∀ c ∈ literalHeader cs, isPrintable c = true := by
  have two : isPrintable '2' = true := by decide
  have hint (given : Bool) : ∀ c ∈ (if given then ['2'] else []), isPrintable c = true := by
    cases given <;> simp [two]
  have minus : isPrintable '-' = true := by decide
  have plus : isPrintable '+' = true := by decide
  simp only [literalHeader, List.cons_append, List.forall_mem_cons, List.forall_mem_append]
  refine ⟨by decide, hint _, ?_⟩
  split
  · simpa using minus
  · split
    · simpa using minus
    · split
      · simpa using plus
      · simp

theorem printable_writeText (indent : Nat) (s : String) :
    ∀ c ∈ writeText indent s, isPrintable c = true := by
  have suited := isSuited_quoting s
  obtain ⟨space, feed, quote, double⟩ : isPrintable ' ' = true ∧ isPrintable '\n' = true ∧
      isPrintable '\'' = true ∧ isPrintable '"' = true := by decide
  unfold writeText
  cases style : quoting s with
  | plain =>
    rw [style] at suited
    have printable := suited.1
    simp only [allowsPlain, Bool.and_eq_true, List.all_eq_true] at printable
    simp only [List.forall_mem_cons, List.forall_mem_append, List.cons_append]
    exact ⟨space, printable.1.1.1.1, feed, by simp⟩
  | single =>
    rw [style] at suited
    have printable := suited.1
    simp only [allowsSingleQuotes, Bool.and_eq_true, List.all_eq_true] at printable
    simp only [List.forall_mem_cons, List.forall_mem_append, List.cons_append]
    exact ⟨space, quote, printable_singleQuoted printable.1.1, feed, by simp⟩
  | double =>
    simp only [List.forall_mem_cons, List.forall_mem_append, List.cons_append]
    refine ⟨space, double, fun c member => ?_, double, feed, by simp⟩
    obtain ⟨x, _, written⟩ := List.mem_flatMap.mp member
    exact printable_escapedChar x c written
  | literal =>
    rw [style] at suited
    simp only [List.forall_mem_cons, List.forall_mem_append, List.cons_append]
    exact ⟨space, printable_literalHeader _, feed, printable_literalLines suited.1⟩

end Layout
end InfraLint.Yaml
