import InfraLint.Numeric.Binary64
import Mathlib

/-!
Rounding of integers. It keeps the order, whatever the size of the integers, and up to 2 ^ 53 on
either side of zero it changes nothing.
-/
namespace InfraLint.Binary64

/-! Quotients -/

theorem le_roundedQuotient (num den : Nat) : num / den ≤ roundedQuotient num den := by
  simp only [roundedQuotient]
  split
  · exact Nat.le_refl _
  · split <;> omega

theorem roundedQuotient_le (num den : Nat) : roundedQuotient num den ≤ num / den + 1 := by
  simp only [roundedQuotient]
  split
  · omega
  · split <;> omega

theorem roundedQuotient_mono {a b : Nat} (den : Nat) (le : a ≤ b) :
    roundedQuotient a den ≤ roundedQuotient b den := by
  rcases Nat.lt_or_eq_of_le (Nat.div_le_div_right (c := den) le) with below | same
  · calc roundedQuotient a den ≤ a / den + 1 := roundedQuotient_le a den
      _ ≤ b / den := below
      _ ≤ roundedQuotient b den := le_roundedQuotient b den
  · -- with one integer part, the larger remainder is rounded up whenever the smaller one is
    have remainders : a % den ≤ b % den := by
      have splitA := Nat.div_add_mod a den
      have splitB := Nat.div_add_mod b den
      rw [same] at splitA
      omega
    simp only [roundedQuotient, same]
    split <;> split <;> (try split) <;> (try split) <;> omega

theorem roundedQuotient_mul (k : Nat) {den : Nat} (positive : 0 < den) :
    roundedQuotient (k * den) den = k := by
  simp [roundedQuotient, Nat.mul_div_cancel k positive, positive]

/-! Counts of units -/

theorem roundedUnits_one (units : Nat) : roundedUnits units 1 =
    roundedQuotient units (2 ^ excess units) * 2 ^ excess units := by
  simp [roundedUnits, Nat.pow_eq]

theorem roundedQuotient_of_dvd {units place : Nat} (whole : 2 ^ place ∣ units) :
    roundedQuotient units (2 ^ place) * 2 ^ place = units := by
  obtain ⟨k, rfl⟩ := whole
  rw [Nat.mul_comm (2 ^ place) k, roundedQuotient_mul k (Nat.two_pow_pos place)]

theorem roundedUnits_of_dvd {units : Nat} (whole : 2 ^ excess units ∣ units) :
    roundedUnits units 1 = units := by
  rw [roundedUnits_one, roundedQuotient_of_dvd whole]

theorem log2_mono {a b : Nat} (le : a ≤ b) : Nat.log2 a ≤ Nat.log2 b := by
  rw [Nat.log2_eq_log_two, Nat.log2_eq_log_two]
  exact Nat.log_mono_right le

/-- Between two counts that are rounded at different places stands a power of two, and both places
hold it. -/
theorem roundedUnits_mono {a b : Nat} (le : a ≤ b) : roundedUnits a 1 ≤ roundedUnits b 1 := by
  have logs := log2_mono le
  rw [roundedUnits_one, roundedUnits_one]
  by_cases same : excess a = excess b
  · rw [same]
    exact Nat.mul_le_mul_right _ (roundedQuotient_mono _ le)
  · have apart : Nat.log2 a + 1 ≤ Nat.log2 b ∧ 53 ≤ Nat.log2 b := by
      unfold excess at same
      omega
    have above : a ≤ 2 ^ Nat.log2 b :=
      Nat.le_of_lt (Nat.lt_of_lt_of_le Nat.lt_log2_self (Nat.pow_le_pow_right (by decide) apart.1))
    have below : 2 ^ Nat.log2 b ≤ b := Nat.log2_self_le (by
      rintro rfl
      simp at apart)
    have holds {units : Nat} (small : excess units ≤ Nat.log2 b) :
        roundedQuotient (2 ^ Nat.log2 b) (2 ^ excess units) * 2 ^ excess units =
          2 ^ Nat.log2 b :=
      roundedQuotient_of_dvd (Nat.pow_dvd_pow 2 small)
    calc roundedQuotient a (2 ^ excess a) * 2 ^ excess a
        ≤ roundedQuotient (2 ^ Nat.log2 b) (2 ^ excess a) * 2 ^ excess a :=
          Nat.mul_le_mul_right _ (roundedQuotient_mono _ above)
      _ = 2 ^ Nat.log2 b := holds (by unfold excess; omega)
      _ = roundedQuotient (2 ^ Nat.log2 b) (2 ^ excess b) * 2 ^ excess b :=
          (holds (by unfold excess; omega)).symm
      _ ≤ roundedQuotient b (2 ^ excess b) * 2 ^ excess b :=
          Nat.mul_le_mul_right _ (roundedQuotient_mono _ below)

/-! The order of numbers -/

/-- What stands between two finite numbers is finite, so that the counts can be compared. -/
theorem signed_le_of_le {m n : Bool} {a b : Nat} {x : Binary64}
    (first : (finite m a).le x = true) (second : x.le (finite n b) = true) :
    signed m a ≤ signed n b := by
  cases x with
  | finite l c =>
    have lower : signed m a ≤ signed l c := by simpa [le] using first
    have upper : signed l c ≤ signed n b := by simpa [le] using second
    exact Int.le_trans lower upper
  | infinite l => cases l <;> simp [le] at first second
  | nan => simp [le] at first

theorem ofUnits_mono {a b : Nat} (le : a ≤ b) :
    (ofUnits false a 1).le (ofUnits false b 1) = true ∧
      (ofUnits true b 1).le (ofUnits true a 1) = true := by
  have rounded := roundedUnits_mono le
  unfold ofUnits
  constructor <;> grind [Binary64.le, signed]

theorem ofUnits_le (a b : Nat) : (ofUnits true a 1).le (ofUnits false b 1) = true := by
  unfold ofUnits
  grind [Binary64.le, signed]

theorem ofInt_mono {m n : Int} (le : m ≤ n) : (ofInt m).le (ofInt n) = true := by
  unfold ofInt
  by_cases negative : m < 0
  · rw [decide_eq_true negative]
    by_cases below : n < 0
    · have counts : n.natAbs * one ≤ m.natAbs * one := Nat.mul_le_mul_right _ (by omega)
      rw [decide_eq_true below]
      exact (ofUnits_mono counts).2
    · rw [decide_eq_false below]
      exact ofUnits_le _ _
  · have counts : m.natAbs * one ≤ n.natAbs * one := Nat.mul_le_mul_right _ (by omega)
    rw [decide_eq_false negative, decide_eq_false (by omega : ¬n < 0)]
    exact (ofUnits_mono counts).1

/-! Integers that are kept -/

theorem excess_dvd {n : Nat} (small : n ≤ 2 ^ 53) (unit : Nat) :
    2 ^ excess (n * 2 ^ unit) ∣ n * 2 ^ unit := by
  rcases Nat.lt_or_eq_of_le small with below | rfl
  · have places : excess (n * 2 ^ unit) ≤ unit := by
      by_cases zero : n * 2 ^ unit = 0
      · simp [zero, excess]
      · have bound : n * 2 ^ unit < 2 ^ (53 + unit) := by
          rw [Nat.pow_add]
          exact Nat.mul_lt_mul_of_pos_right below (Nat.two_pow_pos unit)
        have := (Nat.log2_lt zero).mpr bound
        unfold excess
        omega
    exact Nat.dvd_mul_left_of_dvd (Nat.pow_dvd_pow 2 places) n
  · rw [← Nat.pow_add, excess, Nat.log2_two_pow]
    exact Nat.pow_dvd_pow 2 (by omega)

/- The two constants only as powers: written out they are far too long to be looked at. -/
theorem one_eq : ∃ unit, one = 2 ^ unit := by
  unfold one
  generalize 1074 = unit
  exact ⟨unit, rfl⟩

theorem limit_eq : ∃ top, limit = 2 ^ top * one ∧ 63 < top := by
  unfold limit
  have large : 63 < 1024 := by decide
  generalize 1024 = top at large
  exact ⟨top, rfl, large⟩

theorem one_pos : 0 < one := by
  obtain ⟨unit, power⟩ := one_eq
  rw [power]
  exact Nat.two_pow_pos unit

theorem ofInt_exact {n : Int} (small : n.natAbs ≤ 2 ^ 53) :
    ofInt n = finite (n < 0) (n.natAbs * one) := by
  have kept : roundedUnits (n.natAbs * one) 1 = n.natAbs * one := by
    obtain ⟨unit, power⟩ := one_eq
    rw [power]
    exact roundedUnits_of_dvd (excess_dvd small unit)
  have inside : n.natAbs * one < limit := by
    obtain ⟨top, power, large⟩ := limit_eq
    rw [power]
    refine Nat.mul_lt_mul_of_pos_right (Nat.lt_of_le_of_lt small ?_) one_pos
    exact Nat.pow_lt_pow_right (by decide) (by omega)
  rw [ofInt, ofUnits, kept, if_pos inside]

/-- Integers of 64 bits are finite: rounding cannot take them past the power of two above them. -/
theorem ofInt_finite {n : Int} (small : n.natAbs ≤ 2 ^ 63) :
    ∃ units, ofInt n = finite (n < 0) units := by
  have kept : roundedUnits (2 ^ 63 * one) 1 = 2 ^ 63 * one := by
    obtain ⟨unit, power⟩ := one_eq
    rw [power, ← Nat.pow_add]
    refine roundedUnits_of_dvd (Nat.pow_dvd_pow 2 ?_)
    rw [excess, Nat.log2_two_pow]
    omega
  have inside : roundedUnits (n.natAbs * one) 1 < limit := by
    obtain ⟨top, power, large⟩ := limit_eq
    calc roundedUnits (n.natAbs * one) 1
        ≤ roundedUnits (2 ^ 63 * one) 1 := roundedUnits_mono (Nat.mul_le_mul_right _ small)
      _ = 2 ^ 63 * one := kept
      _ < 2 ^ top * one :=
        Nat.mul_lt_mul_of_pos_right (Nat.pow_lt_pow_right (by decide) large) one_pos
      _ = limit := power.symm
  exact ⟨_, by rw [ofInt, ofUnits, if_pos inside]⟩

theorem signed_natAbs (n : Int) (unit : Nat) :
    signed (n < 0) (n.natAbs * unit) = n * unit := by
  by_cases negative : n < 0
  · have magnitude : (n.natAbs : Int) = -n := by omega
    rw [decide_eq_true negative, signed, if_pos rfl, Int.natCast_mul, magnitude, Int.neg_mul,
      Int.neg_neg]
  · have magnitude : (n.natAbs : Int) = n := by omega
    rw [decide_eq_false negative, signed, if_neg Bool.false_ne_true, Int.natCast_mul, magnitude]

/-- Where the minimum and its predecessor are kept, nothing below the minimum is rounded up to
it. -/
theorem le_of_ofInt_le {m n : Int} (lower : -2 ^ 53 < m) (upper : m ≤ 2 ^ 53)
    (rounded : (ofInt m).le (ofInt n) = true) : m ≤ n := by
  by_contra above
  have behind : (ofInt n).le (ofInt (m - 1)) = true := ofInt_mono (by omega)
  rw [ofInt_exact (n := m) (by omega)] at rounded
  rw [ofInt_exact (n := m - 1) (by omega)] at behind
  have counts := signed_le_of_le rounded behind
  rw [signed_natAbs, signed_natAbs] at counts
  have := Int.le_of_mul_le_mul_right counts (Int.natCast_pos.mpr one_pos)
  omega

end InfraLint.Binary64
