import InfraLint.Proofs.Pattern.Takes
import InfraLint.Proofs.Text.Places

/-!
The parts of a text that a pattern takes. A recogniser reads for a pattern when it stops at the
places where the pattern can be met, and leaves no choice of what is taken there.
-/
namespace InfraLint.Pattern
open Text

variable {α : Type} {p : Pattern} {starts : List Char → α → List Char → Prop} {text : List Char}
  {i j : Nat}

/- The pattern takes what stands in the text from `i` on, up to `j`. -/
structure TakesAt (p : Pattern) (text : List Char) (i j : Nat) : Prop where
  order : i ≤ j
  inside : j ≤ text.length
  taken : Takes p (text.take i).reverse ((text.take j).drop i) (text.drop j)

/-- No two of the parts that the pattern takes overlap. -/
def Apart (p : Pattern) (text : List Char) : Prop :=
  ∀ i j k l, p.TakesAt text i j → p.TakesAt text k l → i < k → j ≤ k

/- What starts at a place, and behind what, is where the pattern can be met. -/
structure MetBy (p : Pattern) (starts : List Char → α → List Char → Prop) : Prop where
  meets : ∀ before s rest,
    (∃ a, starts s a rest) ↔ ∃ taken, s = taken ++ rest ∧ Takes p before taken rest
  unique : Unique starts

theorem metBy_of_takes (consumes : Consumes starts) (unique : Unique starts)
    (takes : ∀ before taken after,
      Takes p before taken after ↔ ∃ a, starts (taken ++ after) a after) : MetBy p starts := by
  refine ⟨?_, unique⟩
  intro before s rest
  simp only [takes]
  constructor
  · rintro ⟨a, start⟩
    obtain ⟨c, read, rfl⟩ := consumes _ _ _ start
    exact ⟨c :: read, rfl, a, start⟩
  · rintro ⟨taken, rfl, start⟩
    exact start

theorem drop_split (order : i ≤ j) (inside : j ≤ text.length) :
    text.drop i = (text.take j).drop i ++ text.drop j := by
  conv_lhs => rw [← List.take_append_drop j text]
  exact List.drop_append_of_le_length (by rw [List.length_take]; omega)

/- From one place on, a pattern takes a front of what is left of the text. -/
theorem exists_takesAt_iff (inside : i ≤ text.length) : (∃ j, p.TakesAt text i j) ↔
    ∃ taken after, text.drop i = taken ++ after ∧ Takes p (text.take i).reverse taken after := by
  constructor
  · rintro ⟨j, order, inside, taken⟩
    exact ⟨_, _, drop_split order inside, taken⟩
  · rintro ⟨taken, after, split, takes⟩
    have lengths := congrArg List.length split
    simp only [List.length_drop, List.length_append] at lengths
    have behind : text.drop (i + taken.length) = after := by
      rw [← List.drop_drop, split, List.drop_left]
    have within : (text.take (i + taken.length)).drop i = taken := by
      rw [List.drop_take, split, Nat.add_sub_cancel_left, List.take_left]
    refine ⟨i + taken.length, Nat.le_add_right _ _, by omega, ?_⟩
    rwa [behind, within]

theorem takesAt_iff (met : MetBy p starts) (consumes : Consumes starts) :
    p.TakesAt text i j ↔ ∃ a, StandsAt starts text ⟨i, j, a⟩ := by
  constructor
  · rintro ⟨order, inside, taken⟩
    obtain ⟨a, start⟩ := (met.meets _ _ _).mpr ⟨_, drop_split order inside, taken⟩
    exact ⟨a, inside, start⟩
  · rintro ⟨a, stands⟩
    have order : i ≤ j := Nat.le_of_lt (stands.start_lt_stop consumes)
    obtain ⟨taken, whole, takes⟩ := (met.meets (text.take i).reverse _ _).mp ⟨a, stands.found⟩
    rw [drop_split order stands.inside] at whole
    obtain rfl := List.append_cancel_right whole
    exact ⟨order, stands.inside, takes⟩

theorem apart_iff (met : MetBy p starts) (consumes : Consumes starts) :
    p.Apart text ↔ ∀ q r, StandsAt starts text q → StandsAt starts text r → q.start < r.start →
      q.Before r := by
  constructor
  · rintro apart ⟨i, j, a⟩ ⟨k, l, b⟩ first second
    exact apart i j k l ((takesAt_iff met consumes).mpr ⟨a, first⟩)
      ((takesAt_iff met consumes).mpr ⟨b, second⟩)
  · rintro apart i j k l first second
    obtain ⟨a, first⟩ := (takesAt_iff met consumes).mp first
    obtain ⟨b, second⟩ := (takesAt_iff met consumes).mp second
    exact apart _ _ first second

/- A reader tells from place to place. -/
theorem apart_iff_read (met : MetBy p starts) (consumes : Consumes starts)
    {reader : List Char → Option (α × List Char)}
    (reads : ∀ s a rest, reader s = some (a, rest) ↔ starts s a rest) :
    p.Apart text ↔ ∀ i < text.length, ∀ found ∈ reader (text.drop i),
      ∀ k < text.length, i < k → (reader (text.drop k)).isSome = true →
        text.length - found.2.length ≤ k := by
  rw [apart_iff met consumes]
  constructor
  · rintro apart i _ ⟨a, rest⟩ found k _ order second
    obtain ⟨⟨b, rest'⟩, second⟩ := Option.isSome_iff_exists.mp second
    obtain ⟨j, rfl, stands⟩ := stands_of_starts consumes ((reads _ _ _).mp found)
    obtain ⟨l, _, stands'⟩ := stands_of_starts consumes ((reads _ _ _).mp second)
    have before : j ≤ k := apart _ _ stands stands' order
    have inside : j ≤ text.length := stands.inside
    rw [List.length_drop]
    omega
  · intro read q r stands stands' order
    have length := stands.start_lt_stop consumes
    have length' := stands'.start_lt_stop consumes
    have inside := stands.inside
    have inside' := stands'.inside
    have second := (reads _ _ _).mpr stands'.found
    have before := read q.start (by omega) _ ((reads _ _ _).mpr stands.found) r.start (by omega)
      order (by rw [second]; rfl)
    rw [List.length_drop] at before
    change q.stop ≤ r.start
    omega

end InfraLint.Pattern
