import InfraLint.Proofs.Text.LeftToRight
import Mathlib.Data.List.Pairwise
import Mathlib.Data.List.Sort

/-!
Where a scan finds what it finds. Its finds stand in the text one behind the other; whatever else
stands there starts inside of one of them.
-/
namespace InfraLint.Text

/- A find, and the part of the text that it takes: from `start` on, up to `stop`. -/
structure Place (α : Type) where
  start : Nat
  stop : Nat
  what : α
  deriving DecidableEq, Repr

variable {α : Type} {starts : List Char → α → List Char → Prop} {text : List Char}

structure StandsAt (starts : List Char → α → List Char → Prop) (text : List Char)
    (p : Place α) : Prop where
  inside : p.stop ≤ text.length
  found : starts (text.drop p.start) p.what (text.drop p.stop)

def Place.Before {β : Type} (p : Place α) (q : Place β) : Prop := p.stop ≤ q.start

theorem StandsAt.start_lt_stop (consumes : Consumes starts) {p : Place α}
    (stands : StandsAt starts text p) : p.start < p.stop := by
  obtain ⟨c, read, split⟩ := consumes _ _ _ stands.found
  have lengths := congrArg List.length split
  simp only [List.length_drop, List.length_cons, List.length_append] at lengths
  have inside := stands.inside
  omega

/- What starts at a place of the text stands there up to some place. -/
theorem stands_of_starts (consumes : Consumes starts) {i : Nat} {a : α} {rest : List Char}
    (start : starts (text.drop i) a rest) :
    ∃ j, text.drop j = rest ∧ StandsAt starts text ⟨i, j, a⟩ := by
  obtain ⟨c, read, split⟩ := consumes _ _ _ start
  have left : text.drop (i + (c :: read).length) = rest := by
    rw [← List.drop_drop, split, ← List.cons_append, List.drop_left]
  have lengths := congrArg List.length split
  simp only [List.length_drop, List.length_cons, List.length_append] at lengths
  have inside : i + (c :: read).length ≤ text.length := by
    rw [List.length_cons]
    omega
  exact ⟨_, left, inside, by rwa [left]⟩

theorem StandsAt.eq_of_start (unique : Unique starts) {p q : Place α}
    (stands : StandsAt starts text p) (stands' : StandsAt starts text q)
    (same : p.start = q.start) : p = q := by
  obtain ⟨start, stop, what⟩ := p
  obtain ⟨start', stop', what'⟩ := q
  obtain rfl : start = start' := same
  obtain ⟨rfl, rests⟩ := unique _ _ _ _ _ stands.found stands'.found
  have lengths := congrArg List.length rests
  have inside := stands.inside
  have inside' := stands'.inside
  simp only [List.length_drop] at lengths inside inside'
  obtain rfl : stop = stop' := by omega
  rfl

/- What a scan finds from the place `n` of a text on. -/
structure FoundFrom (starts : List Char → α → List Char → Prop) (text : List Char) (n : Nat)
    (places : List (Place α)) : Prop where
  behind : ∀ p ∈ places, n ≤ p.start
  stand : ∀ p ∈ places, StandsAt starts text p
  inOrder : places.Pairwise Place.Before
  complete : ∀ q, StandsAt starts text q → n ≤ q.start →
    q ∈ places ∨ ∃ p ∈ places, p.start < q.start ∧ q.start < p.stop

theorem foundFrom_end (consumes : Consumes starts) : FoundFrom starts text text.length [] := by
  refine ⟨by simp, by simp, .nil, ?_⟩
  intro q stands later
  have order := stands.start_lt_stop consumes
  have inside := stands.inside
  omega

/- What starts behind the first find and before its end starts inside of it. -/
theorem FoundFrom.cons (consumes : Consumes starts) (unique : Unique starts) {p : Place α}
    {places : List (Place α)} (stands : StandsAt starts text p)
    (rest : FoundFrom starts text p.stop places) :
    FoundFrom starts text p.start (p :: places) := by
  have order := stands.start_lt_stop consumes
  refine ⟨?_, ?_, List.pairwise_cons.mpr ⟨rest.behind, rest.inOrder⟩, ?_⟩
  · simp only [List.mem_cons, forall_eq_or_imp, Nat.le_refl, true_and]
    intro q member
    have behind := rest.behind q member
    omega
  · simp only [List.mem_cons, forall_eq_or_imp]
    exact ⟨stands, rest.stand⟩
  · intro q other later
    by_cases here : p.start = q.start
    · obtain rfl := stands.eq_of_start unique other here
      exact .inl List.mem_cons_self
    by_cases inner : q.start < p.stop
    · exact .inr ⟨p, List.mem_cons_self, by omega, inner⟩
    rcases rest.complete q other (by omega) with member | ⟨r, member, within⟩
    · exact .inl (List.mem_cons_of_mem p member)
    · exact .inr ⟨r, List.mem_cons_of_mem p member, within⟩

theorem FoundFrom.passed {n : Nat} {places : List (Place α)}
    (nothing : ∀ a rest, ¬ starts (text.drop n) a rest)
    (rest : FoundFrom starts text (n + 1) places) : FoundFrom starts text n places := by
  refine ⟨fun p member => Nat.le_of_succ_le (rest.behind p member), rest.stand, rest.inOrder, ?_⟩
  intro q stands later
  have elsewhere : n ≠ q.start := by
    rintro rfl
    exact nothing _ _ stands.found
  exact rest.complete q stands (by omega)

theorem foundFrom_of_scan (consumes : Consumes starts) (unique : Unique starts)
    {s : List Char} {finds : List α} (scan : Scan starts s finds) :
    ∀ n, n ≤ text.length → text.drop n = s →
      ∃ places, FoundFrom starts text n places ∧ places.map (·.what) = finds := by
  induction scan with
  | done =>
    intro n inside split
    have ends := List.drop_eq_nil_iff.mp split
    obtain rfl : n = text.length := by omega
    exact ⟨[], foundFrom_end consumes, rfl⟩
  | @found s rest a finds start behind ih =>
    rintro n inside rfl
    obtain ⟨stop, left, stands⟩ := stands_of_starts consumes start
    obtain ⟨places, more, rfl⟩ := ih stop stands.inside left
    exact ⟨_ :: places, more.cons consumes unique stands, rfl⟩
  | @passed c s finds nothing behind ih =>
    intro n inside split
    have left : text.drop (n + 1) = s := by
      rw [← List.drop_drop, split, List.drop_succ_cons, List.drop_zero]
    have inside' : n + 1 ≤ text.length := by
      have lengths := congrArg List.length split
      simp only [List.length_drop, List.length_cons] at lengths
      omega
    obtain ⟨places, more, rfl⟩ := ih (n + 1) inside' left
    exact ⟨places, more.passed (by rwa [split]), rfl⟩

/- A scan of the whole text. -/
theorem places_of_scan (consumes : Consumes starts) (unique : Unique starts) {finds : List α}
    (scan : Scan starts text finds) :
    ∃ places, FoundFrom starts text 0 places ∧ places.map (·.what) = finds :=
  foundFrom_of_scan consumes unique scan 0 (Nat.zero_le _) rfl

theorem FoundFrom.before (consumes : Consumes starts) {n : Nat} {places : List (Place α)}
    (found : FoundFrom starts text n places) {p q : Place α} (first : p ∈ places)
    (second : q ∈ places) (order : p.start < q.start) : p.Before q := by
  have symm : Std.Symm fun p q : Place α => p.Before q ∨ q.Before p := ⟨fun _ _ => Or.symm⟩
  have oneWay : places.Pairwise fun p q => p.Before q ∨ q.Before p := found.inOrder.imp .inl
  have different : p ≠ q := by
    rintro rfl
    exact Nat.lt_irrefl _ order
  rcases oneWay.forall first second different with before | behind
  · exact before
  · have stop : q.stop ≤ p.start := behind
    have length := (found.stand q second).start_lt_stop consumes
    omega

/-- What stands apart is found by the scan, all of it. -/
theorem FoundFrom.mem_iff {places : List (Place α)} (found : FoundFrom starts text 0 places)
    (apart : ∀ p q, StandsAt starts text p → StandsAt starts text q → p.start < q.start →
      p.Before q) (q : Place α) : q ∈ places ↔ StandsAt starts text q := by
  constructor
  · exact found.stand q
  · intro stands
    rcases found.complete q stands (Nat.zero_le _) with member | ⟨p, member, first, inner⟩
    · exact member
    · have before : p.stop ≤ q.start := apart p q (found.stand p member) stands first
      omega

theorem FoundFrom.starts_lt (consumes : Consumes starts) {n : Nat} {places : List (Place α)}
    (found : FoundFrom starts text n places) : places.Pairwise fun p q => p.start < q.start := by
  refine found.inOrder.imp_of_mem fun {p q} member _ (before : p.stop ≤ q.start) => ?_
  have length := (found.stand p member).start_lt_stop consumes
  omega

theorem sublist_of_starts {places kept : List (Place α)}
    (ordered : places.Pairwise fun p q => p.start < q.start)
    (ordered' : kept.Pairwise fun p q => p.start < q.start) (among : kept ⊆ places) :
    kept.Sublist places := by
  have antisymm : Std.Antisymm fun p q : Place α => p.start < q.start :=
    ⟨fun p q first second => absurd first (Nat.lt_asymm second)⟩
  have nodup : kept.Nodup := ordered'.imp fun first same => Nat.ne_of_lt first (congrArg _ same)
  exact List.sublist_of_subperm_of_pairwise (List.subperm_of_subset nodup among) ordered' ordered

end InfraLint.Text
