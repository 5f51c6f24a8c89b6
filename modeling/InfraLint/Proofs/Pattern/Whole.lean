import InfraLint.Proofs.Pattern.Search
import InfraLint.Proofs.Text.Until

/-!
Patterns for a whole text, `^…$`. Such a pattern is found in a text exactly when what stands between
its anchors takes all of it: a line feed at the end counts as any other character. Of the patterns
between anchors, runs of a class with a separator between two of them take the texts that fall into
that many parts when they are split at the separator.
-/
namespace InfraLint.Pattern
open Text

variable {p : Pattern} {ps : List Pattern} {before s after : List Char}

def whole (ps : List Pattern) : Pattern :=
  sequence (.anchor .textStart :: (ps ++ [.anchor .textEnd]))

theorem takes_sequence_one :
    Takes (sequence [p]) before s after ↔ Takes p before s after := Iff.rfl

theorem takes_sequence_cons : Takes (sequence (p :: ps)) before s after ↔
    Followed (Takes p before) (Takes (sequence ps)) before s after := by
  cases ps with
  | nil =>
    constructor
    · intro taken
      exact ⟨s, [], (List.append_nil s).symm, taken, .empty⟩
    · rintro ⟨t, u, rfl, taken, rest⟩
      obtain rfl := takes_empty.mp rest
      rwa [List.append_nil]
  | cons q ps => exact takes_followed

theorem takes_textStart :
    Takes (.anchor .textStart) before s after ↔ s = [] ∧ before = [] := by
  rw [takes_anchor, Anchor.holds, Option.isNone_iff_eq_none, List.head?_eq_none_iff]

theorem takes_textEnd : Takes (.anchor .textEnd) before s after ↔ s = [] ∧ after = [] := by
  rw [takes_anchor, Anchor.holds, Option.isNone_iff_eq_none, List.head?_eq_none_iff]

theorem takes_upToEnd : Takes (sequence (ps ++ [.anchor .textEnd])) before s after ↔
    after = [] ∧ Takes (sequence ps) before s after := by
  induction ps generalizing before s with
  | nil => exact takes_textEnd.trans (and_comm.trans (and_congr_right fun _ => takes_empty.symm))
  | cons p ps ih =>
    simp only [List.cons_append, takes_sequence_cons, Followed, ih]
    constructor
    · rintro ⟨t, u, rfl, taken, ended, rest⟩
      exact ⟨ended, t, u, rfl, taken, rest⟩
    · rintro ⟨ended, t, u, rfl, taken, rest⟩
      exact ⟨t, u, rfl, taken, ended, rest⟩

theorem found_whole : Found (whole ps) s ↔ Takes (sequence ps) [] s [] := by
  constructor
  · rintro ⟨u, t, v, rfl, taken⟩
    obtain ⟨_, t, rfl, start, taken⟩ := takes_sequence_cons.mp taken
    obtain ⟨rfl, front⟩ := takes_textStart.mp start
    obtain rfl := List.reverse_eq_nil_iff.mp front
    obtain ⟨rfl, taken⟩ := takes_upToEnd.mp taken
    simpa using taken
  · intro taken
    refine ⟨[], s, [], by simp, takes_sequence_cons.mpr ⟨[], s, rfl, ?_, ?_⟩⟩
    · exact takes_textStart.mpr ⟨rfl, rfl⟩
    · exact takes_upToEnd.mpr ⟨rfl, taken⟩

theorem isFoundIn_whole {text : String} :
    (whole ps).isFoundIn text = true ↔ Takes (sequence ps) [] text.toList [] :=
  isFoundIn_iff.trans found_whole

/-! Runs -/

variable {cls : CharClass} {sep : Char}

/- `n` runs, with the separator between any two. -/
def separatedRuns (cls : CharClass) (sep : Char) (n : Nat) : List Pattern :=
  (List.replicate n (runOf cls)).intersperse (.chars (.one sep))

theorem takes_separatedRuns_succ {n : Nat} :
    Takes (sequence (separatedRuns cls sep (n + 2))) before s after ↔
      ∃ t u, s = t ++ sep :: u ∧ (t ≠ [] ∧ ∀ c ∈ t, cls.contains c = true) ∧
        Takes (sequence (separatedRuns cls sep (n + 1))) (sep :: (t.reverse ++ before)) u
          after := by
  have parts : separatedRuns cls sep (n + 2) =
      runOf cls :: .chars (.one sep) :: separatedRuns cls sep (n + 1) := rfl
  simp only [parts, takes_sequence_cons, Followed, takes_runOf, takes_chars, contains_one]
  constructor
  · rintro ⟨t, _, rfl, first, _, u, rfl, ⟨c, rfl, rfl⟩, rest⟩
    exact ⟨t, u, rfl, first, rest⟩
  · rintro ⟨t, u, rfl, first, rest⟩
    exact ⟨t, sep :: u, rfl, first, [sep], u, rfl, ⟨sep, rfl, rfl⟩, rest⟩

/-- Runs of a class that does not have the separator are the parts between separators. -/
theorem takes_separatedRuns (apart : cls.contains sep = false) (n : Nat) :
    Takes (sequence (separatedRuns cls sep (n + 1))) before s after ↔
      (s.splitOn sep).length = n + 1 ∧
        ∀ part ∈ s.splitOn sep, part ≠ [] ∧ ∀ c ∈ part, cls.contains c = true := by
  have fresh {t : List Char} (members : ∀ c ∈ t, cls.contains c = true) : sep ∉ t := by
    intro member
    simp [members sep member] at apart
  induction n generalizing before s with
  | zero =>
    have single : separatedRuns cls sep 1 = [runOf cls] := rfl
    rw [single, takes_sequence_one, takes_runOf]
    constructor
    · intro given
      rw [List.splitOn_eq_singleton (fresh given.2)]
      exact ⟨rfl, List.forall_mem_singleton.mpr given⟩
    · rintro ⟨one, parts⟩
      by_cases inside : sep ∈ s
      · obtain ⟨t, u, rfl, first⟩ := split_at_first inside
        rw [List.splitOn_append_cons_self_of_not_mem first] at one
        simp at one
      · rw [List.splitOn_eq_singleton inside] at parts
        exact parts s List.mem_cons_self
  | succ n ih =>
    rw [takes_separatedRuns_succ]
    constructor
    · rintro ⟨t, u, rfl, first, rest⟩
      obtain ⟨count, parts⟩ := ih.mp rest
      rw [List.splitOn_append_cons_self_of_not_mem (fresh first.2)]
      exact ⟨congrArg Nat.succ count, List.forall_mem_cons.mpr ⟨first, parts⟩⟩
    · rintro ⟨count, parts⟩
      by_cases inside : sep ∈ s
      · obtain ⟨t, u, rfl, first⟩ := split_at_first inside
        rw [List.splitOn_append_cons_self_of_not_mem first] at count parts
        obtain ⟨given, parts⟩ := List.forall_mem_cons.mp parts
        exact ⟨t, u, rfl, given, ih.mpr ⟨Nat.succ.inj count, parts⟩⟩
      · rw [List.splitOn_eq_singleton inside] at count
        simp at count

end InfraLint.Pattern
