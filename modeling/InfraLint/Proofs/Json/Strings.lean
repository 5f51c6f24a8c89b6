import InfraLint.Json.Print
import InfraLint.Proofs.Json.Reading

/-!
Printed strings read back: the escapes are undone one by one.
-/
namespace InfraLint.Json
open Reader

variable {s t rest front : List Char} {str : String} {c x : Char} {fuel : Nat}

theorem reads_plainChar (visible : 32 ≤ c.toNat) (noQuote : c ≠ '"') (noEscape : c ≠ '\\')
    (behind : Reads (stringFrom fuel (c :: front)) s str rest) :
    Reads (stringFrom (fuel + 1) front) (c :: s) str rest := by
  refine (reads_peek _).bind ?_
  have step : Reads (do advance; stringFrom fuel (c :: front)) (c :: s) str rest :=
    (reads_advance c s).bind behind
  have noControl : ¬ c.toNat < 32 := by omega
  simpa [noQuote, noEscape, noControl] using step

theorem reads_escapedChar (escaped : Reads escape s c t)
    (behind : Reads (stringFrom fuel (c :: front)) t str rest) :
    Reads (stringFrom (fuel + 1) front) ('\\' :: s) str rest :=
  (reads_peek _).bind ((reads_advance _ _).bind (escaped.bind behind))

theorem reads_shortEscape (short : shortEscape? x = some c) : Reads escape (x :: s) c s := by
  have noHex : x ≠ 'u' := by
    rintro rfl
    cases short
  refine (reads_peek _).bind ?_
  have step : Reads (do advance; return c) (x :: s) c s :=
    (reads_advance x s).bind (reads_pure c s)
  simpa [noHex, short] using step

theorem hexDigit?_digitChar : ∀ d < 16, hexDigit? (Nat.digitChar d) = some d := by decide

/-- The number that four hexadecimal digits write down. -/
def unit? (a b c d : Char) : Option Nat := do
  let a ← hexDigit? a
  let b ← hexDigit? b
  let c ← hexDigit? c
  let d ← hexDigit? d
  return ((a * 16 + b) * 16 + c) * 16 + d

theorem reads_unit {a b c d : Char} {n : Nat} (hex : unit? a b c d = some n) (s : List Char) :
    Reads hex4 (a :: b :: c :: d :: s) n s := by
  simp only [unit?, Option.bind_eq_bind, Option.bind_eq_some_iff, Option.pure_def,
    Option.some.injEq] at hex
  obtain ⟨i, first, j, second, k, third, l, fourth, rfl⟩ := hex
  intro place
  refine ⟨(Cursor.mk place (a :: b :: c :: d :: s)).advance.advance.advance.advance.place, ?_⟩
  simp only [hex4, List.take, List.mapM_cons, List.mapM_nil, first, second, third, fourth,
    Option.bind_eq_bind, Option.bind_some, Option.pure_def]
  rfl

/-- Control characters are written with two digits behind two zeros. -/
theorem reads_hex4 {n : Nat} (control : n < 32) (s : List Char) :
    Reads hex4 ('0' :: '0' :: Nat.digitChar (n / 16) :: Nat.digitChar (n % 16) :: s) n s := by
  have high := hexDigit?_digitChar (n / 16) (by omega)
  have low := hexDigit?_digitChar (n % 16) (by omega)
  have zero : hexDigit? '0' = some 0 := by decide
  have value : n / 16 * 16 + n % 16 = n := by omega
  exact reads_unit (by simp [unit?, zero, high, low, value]) s

theorem reads_hexEscape {n : Nat} (control : n < 32) (s : List Char) :
    Reads escape ('u' :: '0' :: '0' :: Nat.digitChar (n / 16) :: Nat.digitChar (n % 16) :: s)
      (Char.ofNat n) s := by
  refine (reads_peek _).bind ((reads_advance _ _).bind ((reads_hex4 control s).bind ?_))
  have noLow : ¬ (0xDC00 ≤ n ∧ n ≤ 0xDFFF) := by omega
  have noHigh : ¬ (0xD800 ≤ n ∧ n ≤ 0xDBFF) := by omega
  simpa [noLow, noHigh] using reads_pure (Char.ofNat n) s

/-- Every character comes back from the way in which it is written. -/
theorem reads_character (c : Char)
    (behind : Reads (stringFrom fuel (c :: front)) s str rest) :
    Reads (stringFrom (fuel + 1) front) (escapedChar c ++ s) str rest := by
  unfold escapedChar
  split
  · exact reads_escapedChar (reads_shortEscape rfl) behind
  · exact reads_escapedChar (reads_shortEscape rfl) behind
  · exact reads_escapedChar (reads_shortEscape rfl) behind
  · exact reads_escapedChar (reads_shortEscape rfl) behind
  · exact reads_escapedChar (reads_shortEscape rfl) behind
  · exact reads_escapedChar (reads_shortEscape rfl) behind
  · exact reads_escapedChar (reads_shortEscape rfl) behind
  · rename_i noQuote noEscape _ _ _ _ _
    split
    · rename_i control
      have escaped := reads_hexEscape control s
      rw [Char.ofNat_toNat] at escaped
      exact reads_escapedChar escaped behind
    · exact reads_plainChar (by omega) noQuote noEscape behind

theorem escapedChar_ne_nil (c : Char) : escapedChar c ≠ [] := by
  unfold escapedChar
  split <;> try simp
  split <;> simp

theorem length_le_escaped (cs : List Char) : cs.length ≤ (cs.flatMap escapedChar).length := by
  induction cs with
  | nil => simp
  | cons c cs ih =>
    have some := List.length_pos_iff.mpr (escapedChar_ne_nil c)
    simp only [List.length_cons, List.flatMap_cons, List.length_append]
    omega

theorem reads_characters (cs front rest : List Char) (enough : cs.length < fuel) :
    Reads (stringFrom fuel front) (cs.flatMap escapedChar ++ '"' :: rest)
      (.ofList (front.reverse ++ cs)) rest := by
  induction cs generalizing front fuel with
  | nil =>
    cases fuel with
    | zero => simp at enough
    | succ fuel =>
      rw [List.append_nil]
      exact (reads_peek _).bind ((reads_advance _ _).bind (reads_pure _ _))
  | cons c cs ih =>
    cases fuel with
    | zero => simp at enough
    | succ fuel =>
      have behind := ih (c :: front) (Nat.lt_of_succ_lt_succ enough)
      rw [List.flatMap_cons, List.append_assoc]
      refine reads_character c ?_
      simpa using behind

theorem reads_string (str : String) (rest : List Char) :
    Reads Reader.string (str.toList.flatMap escapedChar ++ '"' :: rest) str rest := by
  intro place
  have enough : str.toList.length <
      (str.toList.flatMap escapedChar ++ '"' :: rest).length + 1 := by
    have := length_le_escaped str.toList
    rw [List.length_append]
    omega
  obtain ⟨last, taken⟩ := reads_characters str.toList [] rest enough place
  exact ⟨last, by simpa [Reader.string] using taken⟩

end InfraLint.Json
