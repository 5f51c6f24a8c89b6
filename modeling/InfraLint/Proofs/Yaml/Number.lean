import InfraLint.Proofs.Yaml.Gap

/-!
Integers in decimal digits: they are read back, and they can be plain scalars.
-/
namespace InfraLint.Yaml
open Layout (isPrintable allowsPlain startsWithIndicator holdsIndicator startsOrEnds)

variable {ds : List Char} {c : Char} {m : Nat}

/-! Digits -/

theorem digitValue?_digit (digit : c.isDigit = true) :
    digitValue? 10 c = some (c.toNat - '0'.toNat) := by
  have range : 48 ≤ c.toNat ∧ c.toNat ≤ 57 := by
    simpa [Char.isDigit, UInt32.le_iff_toNat_le] using digit
  have small : c.toNat - 48 < 10 := by omega
  simp [digitValue?, digit, guard, small]

theorem natural?_digits (digits : ∀ c ∈ ds, c.isDigit = true) (given : ds ≠ []) :
    natural? 10 ds = some (Nat.ofDigitChars 10 ds 0) := by
  have fold (start : Nat) : ds.foldlM (fun n c => (digitValue? 10 c).map (n * 10 + ·)) start =
      some (Nat.ofDigitChars 10 ds start) := by
    clear given
    induction ds generalizing start with
    | nil => rfl
    | cons c ds ih =>
      obtain ⟨first, others⟩ := List.forall_mem_cons.mp digits
      simp only [List.foldlM_cons, digitValue?_digit first, Option.map_some, Option.bind_eq_bind,
        Option.bind_some, ih others, Nat.ofDigitChars_cons, Nat.mul_comm start 10]
  simp [natural?, given, fold]

theorem toDigits_head (positive : 0 < m) : (Nat.toDigits 10 m).head? ≠ some '0' := by
  -- the first digit is that of the quotient, until a single digit is left
  induction m using Nat.strongRecOn with
  | ind m ih =>
    by_cases small : m < 10
    · have digit : ∀ d < 10, 0 < d → Nat.digitChar d ≠ '0' := by decide
      rw [Nat.toDigits_of_lt_base small]
      simpa using digit m small positive
    · rw [Nat.toDigits_of_base_le (by decide) (by omega), List.head?_append,
        List.head?_eq_some_head Nat.toDigits_ne_nil, Option.some_or,
        ← List.head?_eq_some_head Nat.toDigits_ne_nil]
      exact ih (m / 10) (by omega) (by omega)

theorem isDigit_toDigits (member : c ∈ Nat.toDigits 10 m) : c.isDigit = true :=
  Nat.isDigit_of_mem_toDigits (by decide) (by decide) member

theorem toDigits_cons (m : Nat) : ∃ d rest, Nat.toDigits 10 m = d :: rest ∧ d.isDigit = true := by
  obtain ⟨d, rest, isCons⟩ := List.exists_cons_of_ne_nil (Nat.toDigits_ne_nil (n := m) (b := 10))
  exact ⟨d, rest, isCons, isDigit_toDigits (isCons ▸ List.mem_cons_self)⟩

theorem magnitude?_toDigits (m : Nat) : magnitude? (Nat.toDigits 10 m) = some m := by
  have value : natural? 10 (Nat.toDigits 10 m) = some m := by
    rw [natural?_digits (fun c member => isDigit_toDigits member) Nat.toDigits_ne_nil,
      Nat.ofDigitChars_toDigits (by decide) (by decide)]
  by_cases zero : m = 0
  · subst zero
    rfl
  · obtain ⟨d, rest, isCons, digit⟩ := toDigits_cons m
    have noZero : d ≠ '0' := by
      have head := toDigits_head (Nat.pos_of_ne_zero zero)
      rw [isCons] at head
      simpa using head
    have noSign : takeSign (d :: rest) = (false, d :: rest) := by
      unfold takeSign
      split <;> simp_all
    have noLeading : hasLeadingZero (d :: rest) = false := by
      simp only [hasLeadingZero, noSign]
      split
      · simp_all
      · rfl
    rw [isCons] at value ⊢
    unfold magnitude?
    simp only [noLeading, value]
    split <;> simp_all

/-! Integers -/

theorem toList_ofNat (m : Nat) : (toString (Int.ofNat m)).toList = Nat.toDigits 10 m :=
  Nat.toList_repr

theorem toList_negSucc (m : Nat) :
    (toString (Int.negSucc m)).toList = '-' :: Nat.toDigits 10 (m + 1) := by
  show ("-" ++ (m + 1).repr).toList = _
  rw [String.toList_append, Nat.toList_repr]
  rfl

/-- What is written of an integer is read as that integer. -/
theorem integer?_toString (n : Int) : integer? (toString n).toList = some n := by
  cases n with
  | ofNat m =>
    obtain ⟨d, rest, isCons, digit⟩ := toDigits_cons m
    have value := magnitude?_toDigits m
    rw [isCons] at value
    rw [toList_ofNat, isCons]
    unfold integer?
    split <;> simp_all
  | negSucc m =>
    rw [toList_negSucc]
    simp only [integer?, magnitude?_toDigits]
    rfl

theorem bool?_toString (b : Bool) : bool? (toString b) = some b := by
  cases b <;> rfl

/-! Plain words -/

theorem holdsIndicator_solid {cs : List Char} (solid : ∀ c ∈ cs, IsSolid c ∧ c ≠ ':') :
    holdsIndicator cs = false := by
  induction cs with
  | nil => rfl
  | cons c cs ih =>
    obtain ⟨⟨⟨blank, break_⟩, noColon⟩, others⟩ := List.forall_mem_cons.mp solid
    simp [holdsIndicator, blank, break_, noColon, ih others]

theorem allowsPlain_solid {cs : List Char}
    (solid : ∀ c ∈ cs, IsSolid c ∧ c ≠ ':' ∧ isPrintable c = true)
    (start : startsWithIndicator cs = false) : allowsPlain cs = true := by
  have printable : cs.all isPrintable = true :=
    List.all_eq_true.mpr fun c member => (solid c member).2.2
  have unbroken : cs.any isBreak = false :=
    List.any_eq_false.mpr fun c member => by simp [(solid c member).1.2]
  have noSpace : ∀ c ∈ cs, Layout.isSpace c = false := fun c member => by
    have blank := (solid c member).1.1
    simp only [isBlank, Bool.or_eq_false_iff] at blank
    exact blank.1
  have noEdge : startsOrEnds Layout.isSpace cs = false := by
    rw [startsOrEnds, Bool.or_eq_false_iff, Option.any_eq_false, Option.any_eq_false]
    exact ⟨fun c first => by simp [noSpace c (List.mem_of_head? first)],
      fun c last => by simp [noSpace c (List.mem_of_getLast? last)]⟩
  have noIndicator : holdsIndicator cs = false :=
    holdsIndicator_solid fun c member => ⟨(solid c member).1, (solid c member).2.1⟩
  simp [allowsPlain, printable, unbroken, noEdge, start, noIndicator]

theorem digit_cases {p : Char → Prop} (all : ∀ n < 10, p (Char.ofNat (48 + n)))
    (digit : c.isDigit = true) : p c := by
  have range : 48 ≤ c.toNat ∧ c.toNat ≤ 57 := by
    simpa [Char.isDigit, UInt32.le_iff_toNat_le] using digit
  have isDigit := all (c.toNat - 48) (by omega)
  rwa [show 48 + (c.toNat - 48) = c.toNat by omega, Char.ofNat_toNat] at isDigit

theorem solid_digit (digit : c.isDigit = true) : IsSolid c ∧ c ≠ ':' ∧ isPrintable c = true :=
  digit_cases (p := fun c => IsSolid c ∧ c ≠ ':' ∧ isPrintable c = true) (by decide) digit

/-- A digit starts no indicator, and neither does a hyphen in front of it. -/
theorem startsWithIndicator_digit {rest : List Char} (digit : c.isDigit = true) :
    startsWithIndicator (c :: rest) = false ∧ startsWithIndicator ('-' :: c :: rest) = false := by
  obtain ⟨noHyphen, noPoint, noIndicator, noSign⟩ : c ≠ '-' ∧ c ≠ '.' ∧
      "#,[]\x7b\x7d&*!|>'\"%@\x60".toList.contains c = false ∧ "?:-".toList.contains c = false :=
    digit_cases (p := fun c => c ≠ '-' ∧ c ≠ '.' ∧
      "#,[]\x7b\x7d&*!|>'\"%@\x60".toList.contains c = false ∧
      "?:-".toList.contains c = false) (by decide) digit
  have inside : atGap (c :: rest) = false := by
    obtain ⟨⟨blank, break_⟩, _⟩ := solid_digit digit
    simp [atGap, blank, break_]
  constructor
  · unfold startsWithIndicator
    split <;> simp_all
  · unfold startsWithIndicator
    split
    · simp_all
    · simp_all
    · rename_i same
      obtain ⟨rfl, rfl⟩ := List.cons.inj same
      simp [inside]
    · rfl

theorem allowsPlain_integer (n : Int) :
    allowsPlain (toString n).toList = true ∧ (toString n).toList ≠ [] := by
  have solid (m : Nat) :
      ∀ c ∈ Nat.toDigits 10 m, IsSolid c ∧ c ≠ ':' ∧ isPrintable c = true :=
    fun c member => solid_digit (isDigit_toDigits member)
  have start (m : Nat) : startsWithIndicator (Nat.toDigits 10 m) = false ∧
      startsWithIndicator ('-' :: Nat.toDigits 10 m) = false := by
    obtain ⟨d, rest, isCons, digit⟩ := toDigits_cons m
    rw [isCons]
    exact startsWithIndicator_digit digit
  cases n with
  | ofNat m =>
    rw [toList_ofNat]
    exact ⟨allowsPlain_solid (solid m) (start m).1, Nat.toDigits_ne_nil⟩
  | negSucc m =>
    rw [toList_negSucc]
    refine ⟨allowsPlain_solid ?_ (start (m + 1)).2, by simp⟩
    exact List.forall_mem_cons.mpr ⟨by decide, solid (m + 1)⟩

theorem allowsPlain_boolean (b : Bool) :
    allowsPlain (toString b).toList = true ∧ (toString b).toList ≠ [] := by
  cases b <;> decide

end InfraLint.Yaml
