import InfraLint.Proofs.Yaml.Gap
import Mathlib.Algebra.Group.Nat.Defs

/-!
Quoted texts. What stands between the quotes is read character by character up to a gap, and from
gap to gap; both styles read back as the text that they were written for.
-/
namespace InfraLint.Yaml
open Layout (spaces isSpace isPrintable hexDigit hexDigits shortEscapes escapedChar singleQuoted
  allowsSingleQuotes hasNeighbours)

variable {single : Bool} {c : Char} {s w cs : List Char} {fuel : Nat}

def quoteOf (single : Bool) : Char := if single then '\'' else '"'

/-- Between quotes, `w` reads as the character `c`, whatever stands behind it. -/
def ReadsAs (single : Bool) (c : Char) (w : List Char) : Prop :=
  ∀ fuel s, quotedRun? single (fuel + 1) (w ++ s) =
    (quotedRun? single fuel s).map fun (t, n, stop) => (c :: t, n + w.length, stop)

theorem readsAs_self (blank : isBlank c = false) (break_ : isBreak c = false)
    (unquoted : c ≠ quoteOf single) (unescaped : single = false → c ≠ '\\') :
    ReadsAs single c [c] := by
  intro fuel s
  cases single with
  | true =>
    have notQuote : c ≠ '\'' := unquoted
    simp [quotedRun?, blank, break_, notQuote]
  | false =>
    have notQuote : c ≠ '"' := unquoted
    simp [quotedRun?, blank, break_, notQuote, unescaped rfl]

theorem readsAs_quotes : ReadsAs true '\'' ['\'', '\''] := by
  intro fuel s
  have solid : (isBlank '\'' || isBreak '\'') = false := by decide
  simp [quotedRun?, solid]

theorem readsAs_escape {x : Char} (break_ : isBreak x = false)
    (escape : ∀ s, escape? (x :: w ++ s) = some (c, w.length + 1)) :
    ReadsAs false c ('\\' :: x :: w) := by
  intro fuel s
  have solid : (isBlank '\\' || isBreak '\\') = false := by decide
  have read : escape? (x :: (w ++ s)) = some (c, w.length + 1) := escape s
  have behind : (x :: (w ++ s)).drop (w.length + 1) = s := by simp
  simp only [List.cons_append, quotedRun?, solid, break_, read, Option.bind_eq_bind,
    Option.bind_some, behind]
  rfl

theorem readsAs_ne_nil (reads : ReadsAs single c w) : w ≠ [] := by
  rintro rfl
  have none := reads 0 []
  simp [quotedRun?] at none

theorem quotedRun?_run {f : Char → List Char} {run : List Char}
    (inRun : ∀ c ∈ run, ReadsAs single c (f c)) :
    quotedRun? single (fuel + run.length) (run.flatMap f ++ s) =
      (quotedRun? single fuel s).map fun (t, n, stop) =>
        (run ++ t, n + (run.flatMap f).length, stop) := by
  induction run with
  | nil => simp
  | cons c run ih =>
    obtain ⟨first, others⟩ := List.forall_mem_cons.mp inRun
    have fuels : fuel + (c :: run).length = fuel + run.length + 1 := by simp [Nat.add_assoc]
    rw [fuels, List.flatMap_cons, List.append_assoc, first, ih others]
    cases quotedRun? single fuel s with
    | none => rfl
    | some read => simp [Nat.add_comm, Nat.add_left_comm]

theorem quotedRun?_gap (gapped : isBlank c = true ∨ isBreak c = true) :
    quotedRun? single (fuel + 1) (c :: s) = some ([], 0, .gap) := by
  simp only [← Bool.or_eq_true] at gapped
  simp [quotedRun?, gapped]

theorem quotedRun?_quote (alone : single = true → s.head? ≠ some '\'') :
    quotedRun? single (fuel + 1) (quoteOf single :: s) = some ([], 0, .quote) := by
  cases single with
  | false =>
    have solid : (isBlank '"' || isBreak '"') = false := by decide
    simp [quotedRun?, quoteOf, solid]
  | true =>
    have solid : (isBlank '\'' || isBreak '\'') = false := by decide
    have alone := alone rfl
    cases s with
    | nil => simp [quotedRun?, quoteOf, solid]
    | cons x s =>
      have other : x ≠ '\'' := by simpa using alone
      simp [quotedRun?, quoteOf, solid, other]

theorem length_le_written {f : Char → List Char} {run : List Char}
    (inRun : ∀ c ∈ run, ReadsAs single c (f c)) : run.length ≤ (run.flatMap f).length := by
  induction run with
  | nil => simp
  | cons c run ih =>
    obtain ⟨first, others⟩ := List.forall_mem_cons.mp inRun
    have some := List.length_pos_iff.mpr (readsAs_ne_nil first)
    have rest := ih others
    simp only [List.flatMap_cons, List.length_append, List.length_cons]
    omega

theorem quotedRun?_stop {f : Char → List Char} {run : List Char} {stop : Stop}
    (inRun : ∀ c ∈ run, ReadsAs single c (f c))
    (stops : ∀ fuel, quotedRun? single (fuel + 1) s = some ([], 0, stop)) :
    quotedRun? single ((run.flatMap f ++ s).length + 1) (run.flatMap f ++ s) =
      some (run, (run.flatMap f).length, stop) := by
  have shorter := length_le_written inRun
  have fuels : (run.flatMap f ++ s).length + 1 =
      ((run.flatMap f ++ s).length - run.length) + 1 + run.length := by
    simp only [List.length_append]
    omega
  rw [fuels, quotedRun?_run inRun, stops]
  simp

/-! From gap to gap -/

/-- A gap and what is written for it. Line feeds are not written between quotes. -/
inductive WrittenGap : List Char → List Char → Prop where
  | spaces (n : Nat) : WrittenGap (spaces (n + 1)) (spaces (n + 1))
  | breaks {bs : List Char} (n : Nat) (given : bs ≠ [])
      (plain : ∀ b ∈ bs, IsPlainBreak b ∧ b ≠ '\n') : WrittenGap bs (bs ++ spaces (n + 1))

/-- A text, and what is written for it up to the closing quote. -/
inductive Quoted (single : Bool) (f : Char → List Char) : List Char → List Char → Prop where
  | last {run : List Char} (inRun : ∀ c ∈ run, ReadsAs single c (f c)) :
      Quoted single f run (run.flatMap f ++ [quoteOf single])
  | next {run gap writtenGap rest written : List Char} (inRun : ∀ c ∈ run, ReadsAs single c (f c))
      (isGap : WrittenGap gap writtenGap) (ungapped : Ungapped written)
      (quoted : Quoted single f rest written) :
      Quoted single f (run ++ (gap ++ rest)) (run.flatMap f ++ (writtenGap ++ written))

theorem Quoted.written_ne_nil {f : Char → List Char} (quoted : Quoted single f cs w) :
    w ≠ [] := by
  induction quoted with
  | last => simp
  | next _ _ _ _ ih => simp [ih]

theorem writtenGap_head {gap writtenGap : List Char} (isGap : WrittenGap gap writtenGap) :
    ∃ c rest, writtenGap = c :: rest ∧ (isBlank c = true ∨ isBreak c = true) := by
  cases isGap with
  | spaces n => exact ⟨' ', spaces n, spaces_succ n, by decide⟩
  | breaks n given plain =>
    obtain ⟨b, bs, rfl⟩ := List.exists_cons_of_ne_nil given
    exact ⟨b, _, rfl, Or.inr (isBreak_of_plain (plain b (by simp)).1)⟩

theorem gap?_written {gap writtenGap : List Char} {m : Mark} (isGap : WrittenGap gap writtenGap)
    (ungapped : Ungapped s) (room : writtenGap.length < fuel) :
    ∃ g c, gap? 0 fuel false ⟨m, writtenGap ++ s⟩ = some (g, c) ∧ g.folded = gap ∧
      c.rest = s ∧ 0 < c.mark.column := by
  cases isGap with
  | spaces n =>
    have enough : n + 1 < fuel := by simpa [spaces] using room
    have read : gap? 0 fuel false ⟨m, spaces (n + 1) ++ s⟩ = _ := gap?_spaces ungapped enough
    exact ⟨_, _, read, rfl, rfl, Nat.succ_pos _⟩
  | breaks n given plain =>
    simp only [List.length_append, spaces, List.length_replicate] at room
    have areBreaks : ∀ b ∈ gap, IsPlainBreak b := fun b member => (plain b member).1
    obtain ⟨c, read, rest, column⟩ : ∃ c, gap? 0 fuel false ⟨m, gap ++ (spaces (n + 1) ++ s)⟩ =
        some (⟨[], gap⟩, c) ∧ c.rest = s ∧ c.mark.column = n + 1 :=
      gap?_breaks areBreaks given ungapped room
    refine ⟨_, c, by rw [List.append_assoc]; exact read, ?_, rest, by omega⟩
    obtain ⟨b, bs, rfl⟩ := List.exists_cons_of_ne_nil given
    have notFeed : b ≠ '\n' := (plain b (by simp)).2
    simp only [Gap.folded, foldBreaks]
    split
    · simp_all
    · simp_all
    · rfl

section Reading

variable {run more : List Char} {count : Nat} {c c' : Cursor}

theorem quotedFrom?_quote (column : 0 < c.mark.column) (given : c.rest ≠ [])
    (read : quotedRun? single (c.rest.length + 1) c.rest = some (run, count, .quote)) :
    quotedFrom? single (fuel + 1) c = some (run, (c.right count).right 1) := by
  have inside : c.atEdge = false := by simp [Cursor.atEdge, Nat.ne_of_gt column]
  simp [quotedFrom?, inside, given, read, guard]

theorem quotedFrom?_gap {g : Gap} {c'' : Cursor} (column : 0 < c.mark.column) (given : c.rest ≠ [])
    (read : quotedRun? single (c.rest.length + 1) c.rest = some (run, count, .gap))
    (gap : gap? 0 ((c.right count).rest.length + 1) false (c.right count) = some (g, c'))
    (behind : quotedFrom? single fuel c' = some (more, c'')) :
    quotedFrom? single (fuel + 1) c = some (run ++ g.folded ++ more, c'') := by
  have inside : c.atEdge = false := by simp [Cursor.atEdge, Nat.ne_of_gt column]
  simp [quotedFrom?, inside, given, read, gap, behind, guard]

end Reading

/-- The runs and gaps of the text are read one after the other, to the closing quote. -/
theorem quotedFrom?_quoted {f : Char → List Char} {m : Mark} (quoted : Quoted single f cs w)
    (alone : single = true → s.head? ≠ some '\'') (column : 0 < m.column)
    (room : w.length < fuel) :
    ∃ c, quotedFrom? single fuel ⟨m, w ++ s⟩ = some (cs, c) ∧ c.rest = s := by
  induction quoted generalizing fuel m with
  | @last run inRun =>
    obtain ⟨fuel, rfl⟩ : ∃ k, fuel = k + 1 := ⟨fuel - 1, by omega⟩
    have text : run.flatMap f ++ [quoteOf single] ++ s = run.flatMap f ++ quoteOf single :: s := by
      simp
    have read := quotedRun?_stop inRun fun _ => quotedRun?_quote alone
    rw [text]
    exact ⟨_, quotedFrom?_quote column (by simp) read, by simp [Cursor.right]⟩
  | @next run gap writtenGap rest written inRun isGap ungapped quoted ih =>
    obtain ⟨fuel, rfl⟩ : ∃ k, fuel = k + 1 := ⟨fuel - 1, by omega⟩
    have text : run.flatMap f ++ (writtenGap ++ written) ++ s =
        run.flatMap f ++ (writtenGap ++ (written ++ s)) := by simp
    obtain ⟨x, others, front, gapped⟩ := writtenGap_head isGap
    have stops (k : Nat) : quotedRun? single (k + 1) (writtenGap ++ (written ++ s)) =
        some ([], 0, .gap) := by
      rw [front]
      exact quotedRun?_gap gapped
    have read := quotedRun?_stop inRun stops
    have closed : Ungapped (written ++ s) := ungapped_append quoted.written_ne_nil ungapped
    have enough : writtenGap.length < (writtenGap ++ (written ++ s)).length + 1 := by
      simp only [List.length_append]
      omega
    obtain ⟨g, ⟨mark, _⟩, gapRead, folded, rfl, positive⟩ :
        ∃ g c, gap? 0 _ false ⟨m.right (run.flatMap f).length, _⟩ = some (g, c) ∧ _ :=
      gap?_written isGap closed enough
    have shorter : written.length < fuel := by
      have lengths := congrArg List.length front
      simp only [List.length_append, List.length_cons] at room lengths
      omega
    obtain ⟨c', moreRead, last⟩ := ih positive shorter
    have given : run.flatMap f ++ (writtenGap ++ (written ++ s)) ≠ [] := by simp [front]
    have behind : (⟨m, run.flatMap f ++ (writtenGap ++ (written ++ s))⟩ : Cursor).right
        (run.flatMap f).length =
          ⟨m.right (run.flatMap f).length, writtenGap ++ (written ++ s)⟩ := by
      simp [Cursor.right]
    refine ⟨c', ?_, last⟩
    rw [text, quotedFrom?_gap column given read (by rw [behind]; exact gapRead) moreRead, folded,
      List.append_assoc]

/-! Escapes -/

theorem hexDigit?_hexDigit {d : Nat} (small : d < 16) : hexDigit? (hexDigit d) = some d := by
  have all : ∀ d : Fin 16, hexDigit? (hexDigit d) = some d.val := by decide
  exact all ⟨d, small⟩

theorem length_hexDigits (count n : Nat) : (hexDigits count n).length = count := by
  induction count generalizing n with
  | zero => rfl
  | succ count ih => simp [hexDigits, ih]

theorem hexValue?_hexDigits {count n : Nat} (fits : n < 16 ^ count) :
    hexValue? (hexDigits count n) = some n := by
  unfold hexValue?
  induction count generalizing n with
  | zero =>
    obtain rfl : n = 0 := by simpa using fits
    rfl
  | succ count ih =>
    have front := ih (n := n / 16) (by rw [Nat.pow_succ] at fits; omega)
    have last : hexDigit? (hexDigit (n % 16)) = some (n % 16) := hexDigit?_hexDigit (by omega)
    simp only [hexDigits, List.foldlM_append, front, Option.bind_eq_bind, Option.bind_some,
      List.foldlM_cons, last, Option.map_some, List.foldlM_nil]
    simp only [Option.pure_def, Option.some.injEq]
    omega

/-- An escape by number. -/
theorem escape?_hex {x : Char} {count : Nat} (noShort : shortEscape? x = none)
    (length : escapeLength? x = some count) (fits : c.toNat < 16 ^ count) :
    escape? (x :: hexDigits count c.toNat ++ s) =
      some (c, (hexDigits count c.toNat).length + 1) := by
  have digits : (hexDigits count c.toNat ++ s).take count = hexDigits count c.toNat := by
    have all : (hexDigits count c.toNat).length = count := length_hexDigits count c.toNat
    rw [List.take_append_of_le_length (Nat.le_of_eq all.symm),
      List.take_of_length_le (Nat.le_of_eq all)]
  have valid : c.toNat.isValidChar := c.valid
  have char : Char.ofNat c.toNat = c := Char.ofNat_toNat c
  simp [escape?, noShort, length, digits, length_hexDigits, hexValue?_hexDigits fits, valid, char,
    guard]

theorem escape?_short {x : Char} (short : shortEscapes.lookup c = some x) :
    isBreak x = false ∧ escape? (x :: s) = some (c, 1) := by
  have all : ∀ p ∈ shortEscapes, isBreak p.2 = false ∧ shortEscape? p.2 = some p.1 := by decide
  obtain ⟨before, after, split, _⟩ := List.lookup_eq_some_iff.mp short
  obtain ⟨break_, escape⟩ := all (c, x) (by simp [split])
  exact ⟨break_, by simp [escape?, escape]⟩

theorem escapedChar_cases (c : Char) :
    (isPrintable c = true ∧ isBreak c = false ∧ c ≠ '"' ∧ c ≠ '\\' ∧ escapedChar c = [c]) ∨
      ∃ x w, escapedChar c = '\\' :: x :: w ∧ isBreak x = false ∧
        ∀ s, escape? (x :: w ++ s) = some (c, w.length + 1) := by
  unfold escapedChar
  split
  · rename_i plain
    simp only [Bool.and_eq_true, Bool.not_eq_true', bne_iff_ne] at plain
    exact Or.inl ⟨plain.1.1.1, plain.1.1.2, plain.1.2, plain.2, rfl⟩
  · refine Or.inr ?_
    split
    · rename_i x short
      exact ⟨x, [], rfl, (escape?_short (s := []) short).1, fun s => (escape?_short short).2⟩
    · simp only
      split
      · rename_i fits
        exact ⟨'x', _, rfl, by decide, fun s => escape?_hex rfl rfl (Nat.lt_succ_of_le fits)⟩
      · split
        · rename_i fits
          exact ⟨'u', _, rfl, by decide, fun s => escape?_hex rfl rfl (Nat.lt_succ_of_le fits)⟩
        · have fits : c.toNat < 16 ^ 8 := Nat.lt_of_lt_of_le c.val.toNat_lt (by decide)
          exact ⟨'U', _, rfl, by decide, fun s => escape?_hex rfl rfl fits⟩

/-! Both styles -/

theorem readsAs_escaped (notSpace : c ≠ ' ') : ReadsAs false c (escapedChar c) := by
  rcases escapedChar_cases c with ⟨printable, break_, unquoted, unescaped, same⟩ |
    ⟨x, w, same, break_, escape⟩
  · rw [same]
    have blank : isBlank c = false := by
      rw [Bool.eq_false_iff]
      exact fun blank => notSpace (eq_space_of_printable printable blank)
    exact readsAs_self blank break_ unquoted fun _ => unescaped
  · rw [same]
    exact readsAs_escape break_ escape

theorem ungapped_escaped (behind : ∀ c, cs.head? = some c → c ≠ ' ') :
    Ungapped (cs.flatMap escapedChar ++ ['"']) := by
  cases cs with
  | nil => exact ungapped_cons.mpr (by decide)
  | cons c cs =>
    rcases escapedChar_cases c with ⟨printable, break_, _, _, same⟩ | ⟨x, w, same, _, _⟩
    · have blank : isBlank c = false := by
        rw [Bool.eq_false_iff]
        exact fun blank => behind c rfl (eq_space_of_printable printable blank)
      simpa [same] using ungapped_cons.mpr ⟨blank, break_⟩
    · simpa [same] using ungapped_cons.mpr (by decide)

theorem flatMap_spaces {f : Char → List Char} (same : f ' ' = [' ']) (n : Nat) :
    (spaces n).flatMap f = spaces n := by
  induction n with
  | zero => rfl
  | succ n ih => rw [spaces_succ, List.flatMap_cons, same, ih]; rfl

/-- Only spaces part a text between double quotes, all other characters are escaped if need be. -/
theorem quoted_double (cs : List Char) :
    Quoted false escapedChar cs (cs.flatMap escapedChar ++ ['"']) := by
  have parted : Parted (· ≠ ' ') cs := by
    refine parted_of_alike (fun c _ => ?_) (fun u a b v _ hollowA hollowB => ?_)
    · by_cases space : c = ' ' <;> simp [space]
    · simp_all
  induction parted with
  | last inRun => exact .last fun c member => readsAs_escaped (inRun c member)
  | @next run gap rest inRun isGap behind _ ih =>
    have isSpaces : ∀ c ∈ gap, c = ' ' := fun c member => by simpa using isGap.hollow c member
    obtain ⟨n, rfl⟩ := spaces_of_forall isGap.given isSpaces
    have written : (run ++ (spaces (n + 1) ++ rest)).flatMap escapedChar ++ ['"'] =
        run.flatMap escapedChar ++ (spaces (n + 1) ++ (rest.flatMap escapedChar ++ ['"'])) := by
      simp [List.flatMap_append, flatMap_spaces (f := escapedChar) rfl]
    rw [written]
    exact .next (fun c member => readsAs_escaped (inRun c member)) (.spaces n)
      (ungapped_escaped behind) ih

/-- Only quotes are written twice. -/
def quoteMark (c : Char) : List Char := if c = '\'' then ['\'', '\''] else [c]

theorem singleQuoted_run {indent : Nat} {run : List Char} (inRun : ∀ c ∈ run, isBreak c = false) :
    singleQuoted indent false (run ++ s) =
      run.flatMap quoteMark ++ singleQuoted indent false s := by
  induction run with
  | nil => rfl
  | cons c run ih =>
    obtain ⟨first, others⟩ := List.forall_mem_cons.mp inRun
    simp [singleQuoted, first, ih others, quoteMark]

theorem singleQuoted_breaks {indent : Nat} {broken : Bool} {bs : List Char} (given : bs ≠ [])
    (areBreaks : ∀ c ∈ bs, isBreak c = true) :
    singleQuoted indent broken (bs ++ s) = bs ++ singleQuoted indent true s := by
  induction bs generalizing broken with
  | nil => exact absurd rfl given
  | cons b bs ih =>
    obtain ⟨first, others⟩ := List.forall_mem_cons.mp areBreaks
    by_cases last : bs = []
    · simp [last, singleQuoted, first]
    · simp [singleQuoted, first, ih last others]

theorem singleQuoted_broken {indent : Nat} (unbroken : Unbroken s) :
    singleQuoted indent true s = spaces indent ++ singleQuoted indent false s := by
  cases s with
  | nil => simp [singleQuoted]
  | cons c s => simp [singleQuoted, unbroken c rfl]

theorem readsAs_marked (blank : isBlank c = false) (break_ : isBreak c = false) :
    ReadsAs true c (quoteMark c) := by
  unfold quoteMark
  split
  · rename_i same
    rw [same]
    exact readsAs_quotes
  · rename_i other
    exact readsAs_self blank break_ other (by simp)

theorem ungapped_singleQuoted {indent : Nat} (ungapped : Ungapped cs) :
    Ungapped (singleQuoted indent false cs) := by
  cases cs with
  | nil => exact ungapped_cons.mpr (by decide)
  | cons c cs =>
    obtain ⟨blank, break_⟩ := ungapped_cons.mp ungapped
    by_cases quote : c = '\''
    · subst quote
      simpa [singleQuoted, break_] using ungapped_cons.mpr (by decide)
    · simpa [singleQuoted, break_, quote] using ungapped_cons.mpr ⟨blank, break_⟩

theorem parted_of_singleQuotes (allowed : allowsSingleQuotes cs = true) :
    Parted IsSolid cs := by
  simp only [allowsSingleQuotes, Bool.and_eq_true, Bool.not_eq_true', List.all_eq_true] at allowed
  obtain ⟨⟨printable, breakSpace⟩, spaceBreak⟩ := allowed
  refine parted_of_neighbours (fun c member => ?_) breakSpace spaceBreak
  cases blank : isBlank c with
  | true =>
    have hollow : ¬ IsSolid c := by simp [IsSolid, blank]
    exact Or.inr ⟨hollow, Or.inl (eq_space_of_printable (printable c member) blank)⟩
  | false =>
    cases break_ : isBreak c with
    | true =>
      have hollow : ¬ IsSolid c := by simp [IsSolid, break_]
      exact Or.inr ⟨hollow, Or.inr (plainBreak_of_printable (printable c member) break_)⟩
    | false => exact Or.inl ⟨blank, break_⟩

theorem quoted_single (n : Nat) (allowed : allowsSingleQuotes cs = true) (noFeed : '\n' ∉ cs) :
    Quoted true quoteMark cs (singleQuoted (n + 1) false cs) := by
  have parted := parted_of_singleQuotes allowed
  clear allowed
  induction parted with
  | @last run inRun =>
    have whole : singleQuoted (n + 1) false run = run.flatMap quoteMark ++ ['\''] := by
      simpa [singleQuoted] using singleQuoted_run (s := []) fun c member => (inRun c member).2
    rw [whole]
    exact .last fun c member => readsAs_marked (inRun c member).1 (inRun c member).2
  | @next run gap rest inRun isGap behind _ ih =>
    have marked : ∀ c ∈ run, ReadsAs true c (quoteMark c) := fun c member =>
      readsAs_marked (inRun c member).1 (inRun c member).2
    have noFeedBehind : '\n' ∉ rest := fun inside => noFeed (by simp [inside])
    rw [singleQuoted_run fun c member => (inRun c member).2]
    -- spaces are written as they are, breaks are followed by the indent
    rcases isGap.uniform with isSpaces | areBreaks
    · obtain ⟨k, rfl⟩ := spaces_of_forall isGap.given isSpaces
      have unbroken : ∀ c ∈ spaces (k + 1), isBreak c = false := fun c member => by
        rw [isSpaces c member]
        decide
      rw [singleQuoted_run unbroken, flatMap_spaces rfl]
      exact .next marked (.spaces k) (ungapped_singleQuoted behind) (ih noFeedBehind)
    · have plain : ∀ b ∈ gap, IsPlainBreak b ∧ b ≠ '\n' := by
        intro b member
        refine ⟨areBreaks b member, ?_⟩
        rintro rfl
        exact noFeed (by simp [member])
      rw [singleQuoted_breaks isGap.given fun b member => isBreak_of_plain (areBreaks b member),
        singleQuoted_broken (Ungapped.unbroken behind), ← List.append_assoc gap]
      exact .next marked (.breaks n isGap.given plain) (ungapped_singleQuoted behind)
        (ih noFeedBehind)

/-! What is read behind the opening quote -/

theorem quoted?_read {f : Char → List Char} {m : Mark} (quoted : Quoted single f cs w)
    (alone : single = true → s.head? ≠ some '\'') :
    ∃ c, quoted? single ⟨m, quoteOf single :: (w ++ s)⟩ = some (.ofList cs, c) ∧ c.rest = s := by
  have room : w.length < (w ++ s).length + 1 + 1 := by
    simp only [List.length_append]
    omega
  obtain ⟨c, read, rest⟩ : ∃ c, quotedFrom? single ((w ++ s).length + 1 + 1) ⟨m.right 1, w ++ s⟩ =
      some (cs, c) ∧ c.rest = s := quotedFrom?_quoted quoted alone (Nat.succ_pos _) room
  refine ⟨c, ?_, rest⟩
  simp only [quoted?, Cursor.right, List.length_cons, List.drop_succ_cons, List.drop_zero, read]
  rfl

end InfraLint.Yaml
