import InfraLint.Proofs.Pattern.Takes
import InfraLint.Proofs.Source.BlockScan

/-!
The pattern for blocks, in which the nesting of braces is unrolled to a fixed depth. What the
unrolled part takes are exactly the balanced texts of that height, so the pattern leaves no choice
of where a block ends, and it can be met exactly where the scan finds a block.
-/
namespace InfraLint.Source
open Text Pattern

/-- Characters that are no braces. -/
def plain : CharClass := .negated (.ofList [.one '{', .one '}'])

/- `[^{}]*` at the bottom. One level up, braces may stand around what is taken one level below. -/
def nested : Nat → Pattern
  | 0 => .star (.chars plain)
  | levels + 1 =>
    .star (.alt (.chars plain)
      (.seq (.chars (.one '{')) (.seq (nested levels) (.chars (.one '}')))))

def spelled (w : List Char) (p : Pattern) : Pattern :=
  w.foldr (fun c p => .seq (.chars (.one c)) p) p

def atLeastOne (cls : CharClass) (p : Pattern) : Pattern :=
  .seq (.seq (.chars cls) (.star (.chars cls))) p

def freeBlanks (p : Pattern) : Pattern := .seq (.star (.chars .blank)) p

def quotedPart (q : Char) (p : Pattern) : Pattern :=
  spelled [q] (atLeastOne (.negated (.one q)) (spelled [q] p))

/- `\{(…)\}`, with two inner levels. -/
def bodyPattern : Pattern := spelled ['{'] (.seq (nested 2) (.chars (.one '}')))

/- `resource\s+"([^"]+)"\s+"([^"]+)"\s*` and `resource\s+(\w+)\s+'([^']+)'\s*=\s*`, with the body
   behind them. -/
def blockPattern : Language → Pattern
  | .terraform =>
    spelled "resource".toList <| atLeastOne .blank <| quotedPart '"' <| atLeastOne .blank <|
      quotedPart '"' <| freeBlanks bodyPattern
  | .bicep =>
    spelled "resource".toList <| atLeastOne .blank <| atLeastOne .word <| atLeastOne .blank <|
      quotedPart '\'' <| freeBlanks <| spelled ['='] <| freeBlanks bodyPattern

theorem contains_plain {c : Char} : plain.contains c = true ↔ c ≠ '{' ∧ c ≠ '}' := by
  simp only [plain, CharClass.contains, contains_ofList, List.any_cons, List.any_nil,
    Bool.or_false, Bool.not_eq_true', Bool.or_eq_false_iff]
  rw [← Bool.not_eq_true, ← Bool.not_eq_true, contains_one, contains_one]

theorem balanced_of_takes {levels : Nat} {before s after : List Char}
    (taken : Takes (nested levels) before s after) : Balanced levels s := by
  induction levels generalizing before s after with
  | zero =>
    refine takes_star_induction taken (balanced_nil 0) ?_
    intro before t u after first rest
    obtain ⟨c, rfl, member⟩ := takes_chars.mp first
    obtain ⟨notOpen, notClose⟩ := contains_plain.mp member
    exact (balanced_cons notOpen notClose).mpr rest
  | succ levels ih =>
    refine takes_star_induction taken (balanced_nil _) ?_
    intro before t u after first rest
    rcases takes_alt.mp first with single | group
    · obtain ⟨c, rfl, member⟩ := takes_chars.mp single
      obtain ⟨notOpen, notClose⟩ := contains_plain.mp member
      exact (balanced_cons notOpen notClose).mpr rest
    · obtain ⟨open_, _, rfl, opens, braces⟩ := takes_seq.mp group
      obtain ⟨inner, close, rfl, within, closes⟩ := takes_seq.mp braces
      obtain ⟨_, rfl, isOpen⟩ := takes_chars.mp opens
      obtain ⟨_, rfl, isClose⟩ := takes_chars.mp closes
      rw [contains_one.mp isOpen, contains_one.mp isClose]
      exact balanced_append (balanced_wrap (ih within)) rest

theorem closesFrom_room {levels depth : Nat} {s : List Char} (h : ClosesFrom levels depth s) :
    depth ≤ levels := by
  have := (h.bounded [] (by simp)).2
  rw [braceLevel_nil] at this
  omega

/- The brace that closes the outermost of `depth + 1` open levels. In front of it one level less
   is needed, and behind it the count starts afresh. -/
theorem split_at_matching {levels depth : Nat} {s : List Char}
    (h : ClosesFrom (levels + 1) (depth + 1) s) :
    ∃ inner behind, s = inner ++ '}' :: behind ∧ ClosesFrom levels depth inner ∧
      Balanced (levels + 1) behind := by
  induction s generalizing depth with
  | nil => exact absurd (closesFrom_nil.mp h) (by omega)
  | cons c s ih =>
    have room := closesFrom_room h
    by_cases close : c = '}'
    · subst close
      have rest := (closesFrom_close room).mp h
      cases depth with
      | zero => exact ⟨[], s, rfl, closesFrom_nil.mpr rfl, balanced_iff_closesFrom.mpr rest⟩
      | succ depth =>
        obtain ⟨inner, behind, rfl, closes, balanced⟩ := ih rest
        exact ⟨'}' :: inner, behind, rfl, (closesFrom_close (by omega)).mpr closes, balanced⟩
    · by_cases opens : c = '{'
      · subst opens
        obtain ⟨inner, behind, rfl, closes, balanced⟩ := ih ((closesFrom_open room).mp h)
        exact ⟨'{' :: inner, behind, rfl, (closesFrom_open (by omega)).mpr closes, balanced⟩
      · obtain ⟨inner, behind, rfl, closes, balanced⟩ :=
          ih ((closesFrom_other room opens close).mp h)
        exact ⟨c :: inner, behind, rfl, (closesFrom_other (by omega) opens close).mpr closes,
          balanced⟩

theorem not_balanced_close {levels : Nat} {s : List Char} : ¬ Balanced levels ('}' :: s) :=
  fun h => not_closesFrom_close (balanced_iff_closesFrom.mp h)

theorem balanced_group {levels : Nat} {s : List Char} (h : Balanced (levels + 1) ('{' :: s)) :
    ∃ inner behind, s = inner ++ '}' :: behind ∧ Balanced levels inner ∧
      Balanced (levels + 1) behind := by
  have inside := (closesFrom_open (Nat.zero_le _)).mp (balanced_iff_closesFrom.mp h)
  obtain ⟨inner, behind, split, closes, balanced⟩ := split_at_matching inside
  exact ⟨inner, behind, split, balanced_iff_closesFrom.mpr closes, balanced⟩

theorem takes_of_balanced {levels : Nat} {before s after : List Char}
    (balanced : Balanced levels s) : Takes (nested levels) before s after := by
  induction levels generalizing before s after with
  | zero =>
    refine takes_star_chars.mpr ?_
    induction s with
    | nil => simp
    | cons c s ih =>
      have notClose : c ≠ '}' := fun close => not_balanced_close (close ▸ balanced)
      have notOpen : c ≠ '{' := by
        intro same
        subst same
        exact not_closesFrom_full (balanced_iff_closesFrom.mp balanced)
      simp only [List.mem_cons, forall_eq_or_imp]
      have rest := (balanced_cons notOpen notClose).mp balanced
      exact ⟨contains_plain.mpr ⟨notOpen, notClose⟩, ih rest⟩
  | succ levels ih =>
    induction h : s.length using Nat.strongRecOn generalizing before s with
    | ind n shorter =>
      cases s with
      | nil => exact .stop
      | cons c s =>
        have notClose : c ≠ '}' := fun close => not_balanced_close (close ▸ balanced)
        simp only [List.length_cons] at h
        by_cases opens : c = '{'
        · subst opens
          obtain ⟨inner, behind, rfl, within, rest⟩ := balanced_group balanced
          have left : behind.length < n := by
            rw [List.length_append, List.length_cons] at h
            omega
          have group : Takes (.seq (.chars (.one '{')) (.seq (nested levels) (.chars (.one '}'))))
              before (['{'] ++ (inner ++ ['}'])) (behind ++ after) :=
            .seq (.chars (contains_one.mpr rfl)) (.seq (ih within) (.chars (contains_one.mpr rfl)))
          have round : Takes (nested (levels + 1)) before (['{'] ++ (inner ++ ['}']) ++ behind)
              after := .more (.right group) (shorter _ left rest rfl)
          simpa using round
        · have single : Takes (.chars plain) before [c] (s ++ after) :=
            .chars (contains_plain.mpr ⟨opens, notClose⟩)
          have rest := (balanced_cons opens notClose).mp balanced
          exact .more (.left single) (shorter _ (by omega) rest rfl)

/-- Unrolling the nesting to a depth takes the balanced texts of that height, wherever they
stand. -/
theorem takes_nested {levels : Nat} {before s after : List Char} :
    Takes (nested levels) before s after ↔ Balanced levels s :=
  ⟨balanced_of_takes, takes_of_balanced⟩

theorem takes_spelled {w before s after : List Char} {p : Pattern} :
    Takes (spelled w p) before s after ↔
      ∃ t, s = w ++ t ∧ Takes p (w.reverse ++ before) t after := by
  induction w generalizing before s with
  | nil => simp [spelled]
  | cons c w ih =>
    have step : spelled (c :: w) p = .seq (.chars (.one c)) (spelled w p) := rfl
    simp only [step, takes_seq, takes_chars, contains_one, ih, List.reverse_cons,
      List.append_assoc]
    constructor
    · intro h
      obtain ⟨_, _, rfl, ⟨_, rfl, rfl⟩, t, rfl, taken⟩ := h
      exact ⟨t, rfl, taken⟩
    · intro h
      obtain ⟨t, rfl, taken⟩ := h
      exact ⟨[c], w ++ t, rfl, ⟨c, rfl, rfl⟩, t, rfl, taken⟩

theorem takes_atLeastOne {cls : CharClass} {before s after : List Char} {p : Pattern} :
    Takes (atLeastOne cls p) before s after ↔
      ∃ w t, s = w ++ t ∧ (w ≠ [] ∧ ∀ c ∈ w, cls.contains c = true) ∧
        Takes p (w.reverse ++ before) t after := by
  have first : atLeastOne cls p = .seq (runOf cls) p := rfl
  rw [first, takes_seq]
  simp only [takes_runOf]

theorem takes_freeBlanks {before s after : List Char} {p : Pattern} :
    Takes (freeBlanks p) before s after ↔
      ∃ w t, s = w ++ t ∧ AllBlank w ∧ Takes p (w.reverse ++ before) t after := by
  simp only [freeBlanks, takes_seq, takes_star_chars]
  rfl

theorem quotable_iff {q : Char} {t : List Char} :
    (t ≠ [] ∧ ∀ c ∈ t, (CharClass.negated (.one q)).contains c = true) ↔ Quotable q t := by
  have others (c : Char) : (CharClass.negated (.one q)).contains c = true ↔ c ≠ q := by
    rw [CharClass.contains, Bool.not_eq_true', ← Bool.not_eq_true, contains_one]
  simp only [others, Quotable]
  constructor
  · intro h
    obtain ⟨some, fresh⟩ := h
    exact ⟨some, fun member => fresh q member rfl⟩
  · intro h
    obtain ⟨some, fresh⟩ := h
    exact ⟨some, fun c member same => fresh (same ▸ member)⟩

theorem takes_quotedPart {q : Char} {before s after : List Char} {p : Pattern} :
    Takes (quotedPart q p) before s after ↔
      ∃ t u, s = q :: t ++ q :: u ∧ Quotable q t ∧
        Takes p (q :: (t.reverse ++ q :: before)) u after := by
  simp only [quotedPart, takes_spelled, takes_atLeastOne, quotable_iff]
  constructor
  · intro h
    obtain ⟨_, rfl, t, _, rfl, text, u, rfl, taken⟩ := h
    exact ⟨t, u, by simp, text, by simpa using taken⟩
  · intro h
    obtain ⟨t, u, rfl, text, taken⟩ := h
    exact ⟨t ++ q :: u, by simp, t, q :: u, rfl, text, u, rfl, by simpa using taken⟩

theorem takes_bodyPattern {before s after : List Char} :
    Takes bodyPattern before s after ↔ ∃ body, s = '{' :: body ++ ['}'] ∧ Balanced 2 body := by
  simp only [bodyPattern, takes_spelled, takes_seq, takes_nested, takes_chars, contains_one]
  constructor
  · intro h
    obtain ⟨_, rfl, body, _, rfl, balanced, _, rfl, rfl⟩ := h
    exact ⟨body, by simp, balanced⟩
  · intro h
    obtain ⟨body, rfl, balanced⟩ := h
    exact ⟨body ++ ['}'], by simp, body, ['}'], rfl, balanced, '}', rfl, rfl⟩

theorem gap_iff {w : List Char} :
    (w ≠ [] ∧ ∀ c ∈ w, CharClass.blank.contains c = true) ↔ Gap w := Iff.rfl

theorem word_iff {w : List Char} :
    (w ≠ [] ∧ ∀ c ∈ w, CharClass.word.contains c = true) ↔ Word w := Iff.rfl

theorem takes_blockPattern {language : Language} {before taken after : List Char} :
    Takes (blockPattern language) before taken after ↔
      ∃ d head space body, HeaderText d head ∧ d.language = language ∧ AllBlank space ∧
        Balanced 2 body ∧ taken = head ++ space ++ '{' :: body ++ ['}'] := by
  constructor
  · cases language with
    | terraform =>
      simp only [blockPattern, takes_spelled, takes_atLeastOne, takes_quotedPart,
        takes_freeBlanks, takes_bodyPattern, gap_iff]
      intro h
      obtain ⟨_, rfl, first, _, rfl, gap₁, kind, _, rfl, kindText, second, _, rfl, gap₂, name, _,
        rfl, nameText, space, _, rfl, blank, body, rfl, balanced⟩ := h
      exact ⟨_, _, space, body, .terraform gap₁ kindText gap₂ nameText, rfl, blank, balanced,
        by simp⟩
    | bicep =>
      simp only [blockPattern, takes_spelled, takes_atLeastOne, takes_quotedPart,
        takes_freeBlanks, takes_bodyPattern, gap_iff, word_iff]
      intro h
      obtain ⟨_, rfl, first, _, rfl, gap₁, name, _, rfl, nameWord, second, _, rfl, gap₂, kind, _,
        rfl, kindText, inner, _, rfl, blank₁, _, rfl, space, _, rfl, blank₂, body, rfl,
        balanced⟩ := h
      exact ⟨_, _, space, body, .bicep gap₁ nameWord gap₂ kindText blank₁, rfl, blank₂, balanced,
        by simp⟩
  · intro h
    obtain ⟨d, head, space, body, text, same, blank, balanced, rfl⟩ := h
    have behind (b : List Char) : Takes (freeBlanks bodyPattern) b (space ++ ('{' :: body ++ ['}']))
        after := takes_freeBlanks.mpr ⟨_, _, rfl, blank, takes_bodyPattern.mpr ⟨_, rfl, balanced⟩⟩
    cases text with
    | terraform gap₁ kindText gap₂ nameText =>
      obtain rfl : Language.terraform = language := same
      have whole : Takes (blockPattern .terraform) before _ after :=
        takes_spelled.mpr ⟨_, rfl, takes_atLeastOne.mpr ⟨_, _, rfl, gap₁,
          takes_quotedPart.mpr ⟨_, _, rfl, kindText, takes_atLeastOne.mpr ⟨_, _, rfl, gap₂,
            takes_quotedPart.mpr ⟨_, _, rfl, nameText, behind _⟩⟩⟩⟩⟩
      simpa only [List.append_assoc, List.cons_append, List.nil_append] using whole
    | bicep gap₁ nameWord gap₂ kindText inner =>
      obtain rfl : Language.bicep = language := same
      have whole : Takes (blockPattern .bicep) before _ after :=
        takes_spelled.mpr ⟨_, rfl, takes_atLeastOne.mpr ⟨_, _, rfl, gap₁,
          takes_atLeastOne.mpr ⟨_, _, rfl, nameWord, takes_atLeastOne.mpr ⟨_, _, rfl, gap₂,
            takes_quotedPart.mpr ⟨_, _, rfl, kindText, takes_freeBlanks.mpr ⟨_, _, rfl, inner,
              takes_spelled.mpr ⟨_, rfl, behind _⟩⟩⟩⟩⟩⟩⟩
      simpa only [List.append_assoc, List.cons_append, List.nil_append] using whole

theorem blockStarts_iff_takes {language : Language} {before s rest : List Char} :
    (∃ b, BlockStarts language s b rest) ↔
      ∃ taken, s = taken ++ rest ∧ Takes (blockPattern language) before taken rest := by
  simp only [takes_blockPattern]
  constructor
  · intro h
    obtain ⟨b, head, space, body, text, same, blank, balanced, _, rfl⟩ := h
    exact ⟨head ++ space ++ '{' :: body ++ ['}'], by simp, _, head, space, body, text, same, blank,
      balanced, rfl⟩
  · intro h
    obtain ⟨_, rfl, d, head, space, body, text, same, blank, balanced, rfl⟩ := h
    exact ⟨⟨d, .ofList body⟩, head, space, body, text, same, blank, balanced, rfl, by simp⟩

/-- The blocks of a text are what the brace-counting scan yields, and nothing else is. Where the
scan stops to take a block is where the pattern can be met. It takes as much, and neither has a
choice. -/
theorem blocks_eq_brace_counting_scan (language : Language) (content : String)
    (found : List Block) :
    (Scan (BlockStarts language) content.toList found ↔ blocks language content = found) ∧
    (∀ s b rest b' rest', BlockStarts language s b rest → BlockStarts language s b' rest' →
      b = b' ∧ rest = rest') ∧
    ∀ before s rest, (∃ b, BlockStarts language s b rest) ↔
      ∃ taken, s = taken ++ rest ∧ Takes (blockPattern language) before taken rest := by
  refine ⟨scan_iff_blocks, ?_, ?_⟩
  · intro s b rest b' rest' start start'
    exact blockStarts_unique start start'
  · intro before s rest
    exact blockStarts_iff_takes

end InfraLint.Source
