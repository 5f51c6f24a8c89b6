import InfraLint.Numeric.Numeral
import InfraLint.Proofs.Text.Until

/-!
Decimal numerals as they are written: an optional sign, digits with at most one point among them and
an optional exponent. The reader of numbers takes these texts, the words for infinity and the word
for no number, and nothing else.
-/
namespace InfraLint
open Text

def Digits (ds : List Char) : Prop := ∀ c ∈ ds, c.isDigit = true

inductive Sign : List Char → Prop where
  | none : Sign []
  | plus : Sign ['+']
  | minus : Sign ['-']

/-- Digits before the point or behind it, or both. The point may be left out. -/
inductive Mantissa : List Char → Prop where
  | whole {ds : List Char} (filled : ds ≠ []) (digits : Digits ds) : Mantissa ds
  | pointed {ds fraction : List Char} (filled : ds ≠ [] ∨ fraction ≠ []) (digits : Digits ds)
      (digits' : Digits fraction) : Mantissa (ds ++ '.' :: fraction)

inductive ExponentText : List Char → Prop where
  | none : ExponentText []
  | given {letter : Char} {sign ds : List Char} (isLetter : letter = 'e' ∨ letter = 'E')
      (isSign : Sign sign) (filled : ds ≠ []) (digits : Digits ds) :
      ExponentText (letter :: (sign ++ ds))

def IsUnsigned (s : List Char) : Prop :=
  ∃ mantissa exponent, Mantissa mantissa ∧ ExponentText exponent ∧ s = mantissa ++ exponent

def IsNumeral (s : List Char) : Prop := ∃ sign rest, Sign sign ∧ IsUnsigned rest ∧ s = sign ++ rest

variable {s r : List Char} {c : Char}

theorem digit_not_sign (digit : c.isDigit = true) : c ≠ '-' ∧ c ≠ '+' := by
  constructor <;> (rintro rfl; cases digit)

/-! Signs -/

theorem takeSign_append (isSign : Sign s)
    (unsigned : ∀ c, r.head? = some c → c ≠ '-' ∧ c ≠ '+') :
    takeSign (s ++ r) = (decide (s = ['-']), r) := by
  cases isSign with
  | plus => rfl
  | minus => rfl
  | none =>
    cases r with
    | nil => rfl
    | cons c r =>
      obtain ⟨noMinus, noPlus⟩ := unsigned c rfl
      simp only [List.nil_append]
      unfold takeSign
      split
      · simp_all
      · simp_all
      · rfl

theorem takeSign_split (s : List Char) : ∃ sign rest, Sign sign ∧ s = sign ++ rest ∧
    takeSign s = (decide (sign = ['-']), rest) := by
  unfold takeSign
  split
  · exact ⟨['-'], _, .minus, rfl, rfl⟩
  · exact ⟨['+'], _, .plus, rfl, rfl⟩
  · exact ⟨[], _, .none, rfl, rfl⟩

theorem digits_unsigned (digits : Digits r) : ∀ c, r.head? = some c → c ≠ '-' ∧ c ≠ '+' := by
  intro c head
  exact digit_not_sign (digits c (List.mem_of_head? head))

theorem takeWhile_digits (s : List Char) : Digits (s.takeWhile Char.isDigit) :=
  fun c member => List.all_eq_true.mp List.all_takeWhile c member

/-! Exponents -/

namespace Numeral

theorem exponent?_isSome_iff : (exponent? s).isSome = true ↔ ExponentText s := by
  constructor
  · intro taken
    cases s with
    | nil => exact .none
    | cons c s =>
      simp only [exponent?, Bool.or_eq_true, beq_iff_eq] at taken
      split at taken
      · rename_i isLetter
        obtain ⟨sign, ds, isSign, rfl, signed⟩ := takeSign_split s
        rw [signed] at taken
        split at taken
        · simp at taken
        · rename_i given
          simp only [List.isEmpty_iff, Bool.not_eq_true', not_or, Bool.not_eq_false,
            List.all_eq_true] at given
          exact .given isLetter isSign given.1 given.2
      · simp at taken
  · intro text
    cases text with
    | none => rfl
    | @given letter sign ds isLetter isSign filled digits =>
      have left := takeSign_append isSign (digits_unsigned digits)
      have given : (ds.isEmpty || !ds.all Char.isDigit) = false := by
        simpa [filled, Digits] using digits
      simp [exponent?, isLetter, left, given]

/-- Neither a digit nor a point. -/
theorem exponent_stops (text : ExponentText s) :
    ∀ c, s.head? = some c → c.isDigit = false ∧ c ≠ '.' := by
  cases text with
  | none => simp
  | given isLetter =>
    intro c head
    obtain rfl := Option.some.inj head
    rcases isLetter with rfl | rfl
    · exact ⟨rfl, by decide⟩
    · exact ⟨rfl, by decide⟩

/-! Numerals without their sign -/

theorem read?_whole {ds : List Char} (filled : ds ≠ []) (digits : Digits ds)
    (text : ExponentText r) : (read? (ds ++ r)).isSome = true := by
  have stop := exponent_stops text
  obtain ⟨taken, left⟩ := takeWhile_append_stop digits fun c head => (stop c head).1
  unfold read?
  rw [taken, left]
  cases r with
  | nil => simp [filled, exponent?]
  | cons c r =>
    have noPoint : c ≠ '.' := (stop c rfl).2
    simpa [filled, noPoint] using exponent?_isSome_iff.mpr text

theorem read?_pointed {ds fraction : List Char} (filled : ds ≠ [] ∨ fraction ≠ [])
    (digits : Digits ds) (digits' : Digits fraction) (text : ExponentText r) :
    (read? (ds ++ '.' :: (fraction ++ r))).isSome = true := by
  have point : ∀ c, ('.' :: (fraction ++ r)).head? = some c → c.isDigit = false := by
    simp
  obtain ⟨taken, left⟩ := takeWhile_append_stop digits point
  obtain ⟨taken', left'⟩ :=
    takeWhile_append_stop digits' fun c head => (exponent_stops text c head).1
  have given : (ds.isEmpty && fraction.isEmpty) = false := by
    rcases filled with filled | filled <;> simp [filled]
  simp only [read?, taken, left, taken', left', given]
  simpa using exponent?_isSome_iff.mpr text

theorem read?_isSome_iff : (read? s).isSome = true ↔ IsUnsigned s := by
  constructor
  · intro taken
    have digits := takeWhile_digits s
    have split : s = s.takeWhile Char.isDigit ++ s.dropWhile Char.isDigit :=
      List.takeWhile_append_dropWhile.symm
    unfold read? at taken
    generalize s.takeWhile Char.isDigit = ds at *
    generalize s.dropWhile Char.isDigit = rest at *
    subst split
    dsimp only at taken
    split at taken
    · rename_i rest
      dsimp only at taken
      split at taken
      · simp at taken
      · rename_i given
        rw [Option.isSome_map, exponent?_isSome_iff] at taken
        refine ⟨ds ++ '.' :: rest.takeWhile Char.isDigit, _, ?_, taken, by simp⟩
        refine .pointed ?_ digits (takeWhile_digits rest)
        exact Decidable.imp_iff_not_or.mp (by simpa using given)
    · dsimp only at taken
      split at taken
      · simp at taken
      · rename_i given
        rw [Option.isSome_map, exponent?_isSome_iff] at taken
        exact ⟨ds, _, .whole (by simpa using given) digits, taken, rfl⟩
  · rintro ⟨mantissa, exponent, isMantissa, text, rfl⟩
    cases isMantissa with
    | whole filled digits => exact read?_whole filled digits text
    | pointed filled digits digits' =>
      simpa using read?_pointed filled digits digits' text

end Numeral

/-! Whole texts -/

theorem unsigned_head (unsigned : IsUnsigned r) :
    ∀ c, r.head? = some c → c ≠ '-' ∧ c ≠ '+' := by
  obtain ⟨mantissa, exponent, isMantissa, _, rfl⟩ := unsigned
  intro c head
  cases isMantissa with
  | whole filled digits =>
    cases mantissa with
    | nil => exact absurd rfl filled
    | cons d ds =>
      obtain rfl : d = c := by simpa using head
      exact digit_not_sign (digits d List.mem_cons_self)
  | @pointed ds fraction _ digits =>
    cases ds with
    | nil =>
      obtain rfl : '.' = c := by simpa using head
      decide
    | cons d ds =>
      obtain rfl : d = c := by simpa using head
      exact digit_not_sign (digits d List.mem_cons_self)

theorem isNumeral_iff : IsNumeral s ↔ (Numeral.read? (takeSign s).2).isSome = true := by
  rw [Numeral.read?_isSome_iff]
  constructor
  · rintro ⟨sign, rest, isSign, unsigned, rfl⟩
    rwa [takeSign_append isSign (unsigned_head unsigned)]
  · intro unsigned
    obtain ⟨sign, rest, isSign, rfl, signed⟩ := takeSign_split s
    rw [signed] at unsigned
    exact ⟨sign, rest, isSign, unsigned, rfl⟩

instance (s : List Char) : Decidable (IsNumeral s) := decidable_of_iff _ isNumeral_iff.symm

def IsInfinityWord (s : List Char) : Prop :=
  s.map Char.toLower = "inf".toList ∨ s.map Char.toLower = "infinity".toList

/-- One of the words for infinity in any case, and no minus sign in front of it. -/
def WritesInfinity (s : List Char) : Prop :=
  ∃ sign word, (sign = [] ∨ sign = ['+']) ∧ IsInfinityWord word ∧ s = sign ++ word

theorem infinityWord_head (word : IsInfinityWord s) :
    ∀ c, s.head? = some c → c ≠ '-' ∧ c ≠ '+' := by
  intro c head
  have lower : c.toLower = 'i' := by
    cases s with
    | nil => simp at head
    | cons d s =>
      obtain rfl : d = c := by simpa using head
      rcases word with word | word
      · exact (List.cons.inj word).1
      · exact (List.cons.inj word).1
  constructor <;> (rintro rfl; exact absurd lower (by decide))

theorem writesInfinity_iff :
    WritesInfinity s ↔ (takeSign s).1 = false ∧ IsInfinityWord (takeSign s).2 := by
  constructor
  · rintro ⟨sign, word, positive, isWord, rfl⟩
    rcases positive with rfl | rfl
    · rw [takeSign_append .none (infinityWord_head isWord)]
      exact ⟨rfl, isWord⟩
    · rw [takeSign_append .plus (infinityWord_head isWord)]
      exact ⟨rfl, isWord⟩
  · rintro ⟨positive, isWord⟩
    obtain ⟨sign, rest, isSign, rfl, signed⟩ := takeSign_split s
    rw [signed] at positive isWord
    refine ⟨sign, rest, ?_, isWord, rfl⟩
    cases isSign with
    | none => exact .inl rfl
    | plus => exact .inr rfl
    | minus => simp at positive

instance (s : List Char) : Decidable (IsInfinityWord s) :=
  inferInstanceAs (Decidable (s.map Char.toLower = "inf".toList ∨ _))

instance (s : List Char) : Decidable (WritesInfinity s) :=
  decidable_of_iff _ writesInfinity_iff.symm

/-- What is no numeral is a number only as a word: infinite, or not a number at all. -/
theorem ofText?_of_not_numeral (other : ¬ IsNumeral s) :
    Binary64.ofText? s =
      if IsInfinityWord (takeSign s).2 then some (.infinite (takeSign s).1)
      else if (takeSign s).2.map Char.toLower = "nan".toList then some .nan
      else none := by
  have unread : Numeral.read? (takeSign s).2 = none := by
    rwa [isNumeral_iff, Bool.not_eq_true, Option.isSome_eq_false_iff, Option.isNone_iff_eq_none]
      at other
  have spelled (word : String) : String.ofList ((takeSign s).2.map Char.toLower) = word ↔
      (takeSign s).2.map Char.toLower = word.toList := by
    rw [← String.toList_inj, String.toList_ofList]
  unfold Binary64.ofText?
  dsimp only
  rw [unread]
  split
  · rename_i word
    rw [if_pos (.inl ((spelled _).mp word))]
  · rename_i word
    rw [if_pos (.inr ((spelled _).mp word))]
  · rename_i word
    rw [spelled] at word
    have noInfinity : ¬ IsInfinityWord (takeSign s).2 := by
      rw [IsInfinityWord, word]
      decide
    rw [if_neg noInfinity, if_pos word]
  · rename_i noInf noInfinity noNan
    rw [imp_false, spelled] at noInf noInfinity noNan
    have noWord : ¬ IsInfinityWord (takeSign s).2 := by
      rintro (word | word)
      · exact noInf word
      · exact noInfinity word
    rw [if_neg noWord, if_neg noNan]
    rfl

end InfraLint
