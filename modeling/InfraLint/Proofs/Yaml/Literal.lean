import InfraLint.Proofs.Yaml.Gap
import InfraLint.Yaml.BlockText

/-!
Literal texts. Their lines stand at one indent, so they are read as they are; what becomes of the
breaks at the end is told by the header.
-/
namespace InfraLint.Yaml
open Layout (spaces isSpace isPrintable literalHeader literalLines)

variable {s t bs cs run : List Char} {indent fuel widest k : Nat} {m : Mark}

/-! Empty lines -/

theorem takeWhile_spaces (n : Nat) (s : List Char) :
    ((spaces n ++ s).takeWhile (· == ' ')).length = n + (s.takeWhile (· == ' ')).length := by
  rw [List.takeWhile_append_of_pos (by simp [spaces]), List.length_append, spaces,
    List.length_replicate]

theorem takeWhile_unspaced (noSpace : s.head? ≠ some ' ') : s.takeWhile (· == ' ') = [] := by
  cases s with
  | nil => rfl
  | cons c s => simp_all

/-- Empty lines, and the indent of the line behind them as far as it belongs to the block. -/
theorem blankLines?_known (plain : ∀ b ∈ bs, IsPlainBreak b) (start : m.column = 0)
    (width : k = indent ∨ k ≤ indent ∧ s.head? ≠ some ' ') (unbroken : Unbroken s)
    (noTab : s.head? ≠ some '\t') (room : bs.length < fuel) :
    ∃ c w, blankLines? (some indent) fuel widest ⟨m, bs ++ (spaces k ++ s)⟩ = some (bs, c, w) ∧
      c.rest = s ∧ c.mark.column = k := by
  induction bs generalizing fuel m widest with
  | nil =>
    obtain ⟨fuel, rfl⟩ : ∃ k, fuel = k + 1 := ⟨fuel - 1, by omega⟩
    have taken : min (k + (s.takeWhile (· == ' ')).length) indent = k := by
      rcases width with same | ⟨within, noSpace⟩
      · omega
      · rw [takeWhile_unspaced noSpace, List.length_nil]
        omega
    have stop : (⟨m.right k, s⟩ : Cursor).lineBreak? = none := lineBreak?_none unbroken
    have behind : (⟨m, spaces k ++ s⟩ : Cursor).right k = ⟨m.right k, s⟩ := by
      simp [Cursor.right, spaces]
    refine ⟨⟨m.right k, s⟩, max widest (m.right k).column, ?_, rfl, by simp [Mark.right, start]⟩
    simp only [List.nil_append, blankLines?, takeWhile_spaces, start, Nat.sub_zero, taken, behind,
      noTab, stop]
    rfl
  | cons b bs ih =>
    obtain ⟨fuel, rfl⟩ : ∃ k, fuel = k + 1 := ⟨fuel - 1, by omega⟩
    obtain ⟨isPlain, plain⟩ := List.forall_mem_cons.mp plain
    simp only [List.length_cons] at room
    have noSpace : (b == ' ') = false := by rcases isPlain with rfl | rfl | rfl <;> decide
    have notTab : b ≠ '\t' := by rcases isPlain with rfl | rfl | rfl <;> decide
    have break_ : (⟨m, b :: (bs ++ (spaces k ++ s))⟩ : Cursor).lineBreak? =
        some (b, ⟨m.down 1, bs ++ (spaces k ++ s)⟩) := lineBreak?_plain isPlain
    have here : (⟨m, b :: (bs ++ (spaces k ++ s))⟩ : Cursor).right 0 =
        ⟨m, b :: (bs ++ (spaces k ++ s))⟩ := rfl
    obtain ⟨c, w, read, rest, column⟩ : ∃ c w, blankLines? (some indent) fuel
        (max widest m.column) ⟨m.down 1, bs ++ (spaces k ++ s)⟩ = some (bs, c, w) ∧ c.rest = s ∧
          c.mark.column = k := ih plain rfl (by omega)
    refine ⟨c, w, ?_, rest, column⟩
    simp [blankLines?, noSpace, here, notTab, break_, read]

theorem blankLines?_shown (start : m.column = 0) (ungapped : Ungapped s) :
    blankLines? none (fuel + 1) 0 ⟨m, spaces k ++ s⟩ = some ([], ⟨m.right k, s⟩, k) := by
  have noSpace : s.head? ≠ some ' ' := fun space => absurd (ungapped ' ' space) (by decide)
  have noTab : s.head? ≠ some '\t' := fun tab => absurd (ungapped '\t' tab) (by decide)
  have stop : (⟨m.right k, s⟩ : Cursor).lineBreak? = none := lineBreak?_none ungapped.unbroken
  have behind : (⟨m, spaces k ++ s⟩ : Cursor).right k = ⟨m.right k, s⟩ := by
    simp [Cursor.right, spaces]
  have column : (m.right k).column = k := by simp [Mark.right, start]
  simp [blankLines?, takeWhile_spaces, takeWhile_unspaced noSpace, behind, noTab, stop, column]

/-! Lines -/

section Lines

variable {chomping : Chomping} {between : List Char} {blank : Bool} {c c' : Cursor}

def tailOf (chomping : Chomping) (break_ between : List Char) : List Char :=
  match chomping with
  | .strip => []
  | .clip => break_
  | .keep => break_ ++ between

theorem linesFrom?_end {break_ : List Char} (outside : c.mark.column ≠ indent) :
    linesFrom? true chomping indent (fuel + 1) break_ between blank c =
      some (tailOf chomping break_ between, c) := by
  cases chomping <;> simp [linesFrom?, outside, tailOf]

theorem linesFrom?_line {break_ more : List Char} {b : Char} {w : Nat} {between' : List Char}
    (inside : m.column = indent) (inRun : ∀ c ∈ run, isBreak c = false)
    (plain : IsPlainBreak b)
    (blankLines : blankLines? (some indent) (s.length + 1) 0 ⟨(m.right run.length).down 1, s⟩ =
      some (between', c, w))
    (behind : linesFrom? true chomping indent fuel [b] between'
      ((run ++ b :: s).head?.any isBlank) c = some (more, c')) :
    linesFrom? true chomping indent (fuel + 1) break_ between blank ⟨m, run ++ b :: s⟩ =
      some (break_ ++ between ++ run ++ more, c') := by
  have stop : isBreak b = true := isBreak_of_plain plain
  have taken : (run ++ b :: s).takeWhile (!isBreak ·) = run := by
    rw [List.takeWhile_append_of_pos (by simpa using inRun)]
    simp [stop]
  have dropped : (run ++ b :: s).dropWhile (!isBreak ·) = b :: s := by
    rw [List.dropWhile_append_of_pos (by simpa using inRun)]
    simp [stop]
  have break_ : (⟨m.right run.length, b :: s⟩ : Cursor).lineBreak? = _ := lineBreak?_plain plain
  have given : (run ++ b :: s).isEmpty = false := by simp
  unfold linesFrom?
  generalize (run ++ b :: s).head?.any isBlank = first at behind ⊢
  simp [inside, given, Cursor.takeWhile, taken, dropped, break_, blankLines, behind, foldedBreak]

end Lines

/-! What is written -/

theorem literalLines_run (inRun : ∀ c ∈ run, isBreak c = false) :
    literalLines indent false (run ++ s) = run ++ literalLines indent false s := by
  induction run with
  | nil => rfl
  | cons c run ih =>
    obtain ⟨first, others⟩ := List.forall_mem_cons.mp inRun
    simp [literalLines, first, ih others]

theorem literalLines_breaks {broken : Bool} (given : bs ≠ [])
    (areBreaks : ∀ c ∈ bs, isBreak c = true) :
    literalLines indent broken (bs ++ s) = bs ++ literalLines indent true s := by
  induction bs generalizing broken with
  | nil => exact absurd rfl given
  | cons b bs ih =>
    obtain ⟨first, others⟩ := List.forall_mem_cons.mp areBreaks
    by_cases last : bs = []
    · simp [last, literalLines, first]
    · simp [literalLines, first, ih last others]

theorem literalLines_broken (given : s ≠ []) (unbroken : Unbroken s) :
    literalLines indent true s = spaces indent ++ literalLines indent false s := by
  obtain ⟨c, s, rfl⟩ := List.exists_cons_of_ne_nil given
  simp [literalLines, unbroken c rfl]

theorem literalLines_head (given : s ≠ []) (unbroken : Unbroken s) :
    (literalLines indent false s ++ t).head? = s.head? := by
  obtain ⟨c, s, rfl⟩ := List.exists_cons_of_ne_nil given
  simp [literalLines, unbroken c rfl]

theorem length_le_literalLines {broken : Bool} (s : List Char) :
    s.length ≤ (literalLines indent broken s).length := by
  induction s generalizing broken with
  | nil => exact Nat.zero_le _
  | cons c s ih =>
    have rest : s.length ≤ (literalLines indent (isBreak c) s).length := ih
    cases break_ : isBreak c with
    | true =>
      rw [break_] at rest
      simp only [literalLines, break_, if_true, List.length_cons]
      omega
    | false =>
      rw [break_] at rest
      simp only [literalLines, break_, Bool.false_eq_true, if_false, List.length_append,
        List.length_cons]
      omega

theorem literalLines_leading (areBreaks : ∀ c ∈ bs, isBreak c = true) (given : s ≠ [])
    (unbroken : Unbroken s) : literalLines indent true (bs ++ s) =
      bs ++ (spaces indent ++ literalLines indent false s) := by
  rw [← literalLines_broken given unbroken]
  by_cases none : bs = []
  · rw [none]
    rfl
  · exact literalLines_breaks none areBreaks

/-! The breaks at the end -/

def trailing (cs : List Char) : List Char := cs.reverse.takeWhile isBreak

/-- Whether the breaks at the end of a text are what the chomping makes of them. -/
def Suits (chomping : Chomping) (bs : List Char) : Prop :=
  match chomping with
  | .strip => bs = []
  | .clip => bs.length = 1
  | .keep => bs ≠ []

theorem trailing_run (inRun : ∀ c ∈ run, isBreak c = false) : trailing run = [] := by
  cases last : run.reverse with
  | nil => simp [trailing, last]
  | cons c front =>
    have member : c ∈ run := List.mem_reverse.mp (last ▸ List.mem_cons_self)
    have solid := inRun c member
    simp [trailing, last, solid]

theorem trailing_breaks (inRun : ∀ c ∈ run, isBreak c = false)
    (areBreaks : ∀ c ∈ bs, isBreak c = true) : trailing (run ++ bs) = bs.reverse := by
  have front : run.reverse.takeWhile isBreak = [] := trailing_run inRun
  rw [trailing, List.reverse_append, List.takeWhile_append_of_pos (by simpa using areBreaks), front,
    List.append_nil]

theorem trailing_append (given : s ≠ []) (unbroken : Unbroken s) :
    trailing (t ++ s) = trailing s := by
  obtain ⟨c, s, rfl⟩ := List.exists_cons_of_ne_nil given
  have solid := unbroken c rfl
  have stops : ∀ u : List Char, (u ++ c :: t.reverse).takeWhile isBreak =
      (u ++ [c]).takeWhile isBreak := by
    intro u
    induction u with
    | nil => simp [solid]
    | cons x u ih => simp only [List.cons_append, List.takeWhile_cons, ih]
  simpa [trailing] using stops s.reverse

theorem tailOf_suited {chomping : Chomping} {b : Char} {between : List Char}
    (suits : Suits chomping (b :: between).reverse) :
    tailOf chomping [b] between = b :: between := by
  cases chomping with
  | strip => simp [Suits] at suits
  | clip => simpa [Suits, tailOf] using suits
  | keep => rfl

/-! Reading what is written -/

section Reading

variable {chomping : Chomping} {between body : List Char} {blank : Bool}

theorem linesFrom?_ended {break_ : List Char} {b : Char} (inside : m.column = indent)
    (inRun : ∀ c ∈ run, isBreak c = false) (isPlain : IsPlainBreak b)
    (plain : ∀ b ∈ bs, IsPlainBreak b) (outside : k < indent) (ungapped : Ungapped body) :
    ∃ c, linesFrom? true chomping indent (fuel + 2) break_ between blank
        ⟨m, run ++ b :: (bs ++ (spaces k ++ body))⟩ =
          some (break_ ++ between ++ run ++ tailOf chomping [b] bs, c) ∧
        c.rest = body ∧ c.mark.column = k := by
  have noSpace : body.head? ≠ some ' ' := fun space => absurd (ungapped ' ' space) (by decide)
  have noTab : body.head? ≠ some '\t' := fun tab => absurd (ungapped '\t' tab) (by decide)
  have room : bs.length < (bs ++ (spaces k ++ body)).length + 1 := by
    simp only [List.length_append]
    omega
  obtain ⟨c, w, blankLines, rest, column⟩ : ∃ c w, blankLines? (some indent)
      ((bs ++ (spaces k ++ body)).length + 1) 0
        ⟨(m.right run.length).down 1, bs ++ (spaces k ++ body)⟩ = some (bs, c, w) ∧
          c.rest = body ∧ c.mark.column = k :=
    blankLines?_known plain rfl (Or.inr ⟨Nat.le_of_lt outside, noSpace⟩) ungapped.unbroken noTab
      room
  have ends (blank : Bool) : linesFrom? true chomping indent (fuel + 1) [b] bs blank c =
      some (tailOf chomping [b] bs, c) := linesFrom?_end (by omega)
  exact ⟨c, linesFrom?_line inside inRun isPlain blankLines (ends _), rest, column⟩

theorem linesFrom?_further {break_ content more : List Char} {b : Char} (inside : m.column = indent)
    (inRun : ∀ c ∈ run, isBreak c = false) (isPlain : IsPlainBreak b)
    (plain : ∀ b ∈ bs, IsPlainBreak b) (unbroken : Unbroken content)
    (noTab : content.head? ≠ some '\t')
    (read : ∀ (mark : Mark) (blank : Bool), mark.column = indent →
      ∃ c, linesFrom? true chomping indent fuel [b] bs blank ⟨mark, content⟩ = some (more, c) ∧
        c.rest = body ∧ c.mark.column = k) :
    ∃ c, linesFrom? true chomping indent (fuel + 1) break_ between blank
        ⟨m, run ++ b :: (bs ++ (spaces indent ++ content))⟩ =
          some (break_ ++ between ++ run ++ more, c) ∧ c.rest = body ∧ c.mark.column = k := by
  have room : bs.length < (bs ++ (spaces indent ++ content)).length + 1 := by
    simp only [List.length_append]
    omega
  obtain ⟨⟨mark, _⟩, w, blankLines, rfl, column⟩ : ∃ c w, blankLines? (some indent)
      ((bs ++ (spaces indent ++ content)).length + 1) 0
        ⟨(m.right run.length).down 1, bs ++ (spaces indent ++ content)⟩ = some (bs, c, w) ∧
          c.rest = content ∧ c.mark.column = indent :=
    blankLines?_known plain rfl (Or.inl rfl) unbroken noTab room
  obtain ⟨c, behind, rest, columnBehind⟩ := read mark _ column
  exact ⟨c, linesFrom?_line inside inRun isPlain blankLines behind, rest, columnBehind⟩

theorem IsGap.breaks {gap : List Char} (isGap : IsGap (isBreak · = false) gap) :
    ∃ b bs, gap = b :: bs ∧ IsPlainBreak b ∧ ∀ b ∈ bs, IsPlainBreak b := by
  obtain ⟨b, bs, rfl⟩ := List.exists_cons_of_ne_nil isGap.given
  have noSpace : ¬ ∀ c ∈ b :: bs, c = ' ' := fun isSpaces => by
    have hollow := isGap.hollow b List.mem_cons_self
    rw [isSpaces b List.mem_cons_self] at hollow
    exact hollow (by decide)
  exact ⟨b, bs, rfl, List.forall_mem_cons.mp (isGap.uniform.resolve_left noSpace)⟩

theorem linesFrom?_written {break_ : List Char} (parted : Parted (isBreak · = false) cs)
    (given : cs ≠ []) (unbroken : Unbroken cs) (noTab : '\t' ∉ cs)
    (suits : Suits chomping (trailing cs)) (inside : m.column = indent) (outside : k < indent)
    (ungapped : Ungapped body) (room : cs.length < fuel) :
    ∃ c, linesFrom? true chomping indent fuel break_ between blank
        ⟨m, literalLines indent false cs ++ (spaces k ++ body)⟩ =
          some (break_ ++ between ++ cs, c) ∧ c.rest = body ∧ c.mark.column = k := by
  induction parted generalizing fuel m break_ between blank with
  | @last run inRun =>
    -- the break behind the last line has only been written to end it
    obtain ⟨fuel, rfl⟩ : ∃ k, fuel = k + 2 := by
      have length := List.length_pos_iff.mpr given
      exact ⟨fuel - 2, by omega⟩
    obtain rfl : chomping = .strip := by
      rw [trailing_run inRun] at suits
      cases chomping <;> simp_all [Suits]
    have written : literalLines indent false run = run ++ ['\n'] := by
      simpa [literalLines] using literalLines_run (s := []) inRun
    have ended : ∃ c, linesFrom? true .strip indent (fuel + 2) break_ between blank
        ⟨m, run ++ '\n' :: ([] ++ (spaces k ++ body))⟩ =
          some (break_ ++ between ++ run ++ tailOf .strip ['\n'] [], c) ∧
        c.rest = body ∧ c.mark.column = k :=
      linesFrom?_ended inside inRun (Or.inl rfl) (by simp) outside ungapped
    rw [written, List.append_assoc]
    simpa [tailOf] using ended
  | @next run gap rest inRun isGap behind parted ih =>
    obtain ⟨b, bs, rfl, isPlain, plain⟩ := isGap.breaks
    have areBreaks : ∀ c ∈ b :: bs, isBreak c = true := fun c member => by
      simpa using isGap.hollow c member
    simp only [List.length_append, List.length_cons] at room
    obtain ⟨fuel, rfl⟩ : ∃ k, fuel = k + 1 := ⟨fuel - 1, by omega⟩
    rw [literalLines_run inRun, literalLines_breaks isGap.given areBreaks]
    by_cases last : rest = []
    · subst last
      rw [List.append_nil, trailing_breaks inRun areBreaks] at suits
      obtain ⟨fuel, rfl⟩ : ∃ k, fuel = k + 1 := ⟨fuel - 1, by omega⟩
      have ended : ∃ c, linesFrom? true chomping indent (fuel + 2) break_ between blank
          ⟨m, run ++ b :: (bs ++ (spaces k ++ body))⟩ =
            some (break_ ++ between ++ run ++ tailOf chomping [b] bs, c) ∧
          c.rest = body ∧ c.mark.column = k :=
        linesFrom?_ended inside inRun isPlain plain outside ungapped
      rw [tailOf_suited suits] at ended
      simpa [literalLines] using ended
    · have suitsBehind : Suits chomping (trailing rest) := by
        rwa [← List.append_assoc, trailing_append last behind] at suits
      have noTabInside : '\t' ∉ rest := fun tab => noTab (by simp [tab])
      have head : (literalLines indent false rest ++ (spaces k ++ body)).head? = rest.head? :=
        literalLines_head last behind
      have unbrokenBehind : Unbroken (literalLines indent false rest ++ (spaces k ++ body)) :=
        fun c first => behind c (head ▸ first)
      have noTabFirst : (literalLines indent false rest ++ (spaces k ++ body)).head? ≠ some '\t' :=
        fun tab => noTabInside (List.mem_of_mem_head? (head ▸ tab))
      have further : ∃ c, linesFrom? true chomping indent (fuel + 1) break_ between blank
          ⟨m, run ++ b :: (bs ++ (spaces indent ++
            (literalLines indent false rest ++ (spaces k ++ body))))⟩ =
              some (break_ ++ between ++ run ++ ([b] ++ bs ++ rest), c) ∧
          c.rest = body ∧ c.mark.column = k :=
        linesFrom?_further inside inRun isPlain plain unbrokenBehind noTabFirst
          fun mark blank column => ih last behind noTabInside suitsBehind column (by omega)
      rw [literalLines_broken last behind]
      simpa using further

end Reading

/-! The header -/

def startsWithGap (cs : List Char) : Bool := cs.head?.any fun c => isSpace c || isBreak c

def chompingOf (cs : List Char) : Chomping :=
  match cs.reverse with
  | [] => .strip
  | c :: before =>
    if !isBreak c then .strip else if before.head?.all isBreak then .keep else .clip

def chompingMark : Chomping → List Char
  | .strip => ['-']
  | .clip => []
  | .keep => ['+']

theorem header?_literalHeader (cs : List Char) : ∃ head, literalHeader cs = '|' :: head ∧
    ∀ s, header? (head ++ '\n' :: s) =
      some (chompingOf cs, if startsWithGap cs then some 2 else none, head.length) := by
  have written : literalHeader cs =
      '|' :: ((if startsWithGap cs then ['2'] else []) ++ chompingMark (chompingOf cs)) := by
    have hint : (cs.head?.any fun c => isSpace c || isBreak c) = startsWithGap cs := rfl
    simp only [literalHeader, chompingOf, hint]
    cases cs.reverse with
    | nil => rfl
    | cons c before =>
      cases first : isBreak c with
      | false => simp [first, chompingMark]
      | true =>
        cases second : before.head?.all isBreak with
        | false => simp [first, second, chompingMark]
        | true => simp [first, second, chompingMark]
  refine ⟨_, written, fun s => ?_⟩
  cases chompingOf cs <;> cases startsWithGap cs <;> rfl

theorem suits_chompingOf (cs : List Char) : Suits (chompingOf cs) (trailing cs) := by
  unfold chompingOf trailing
  cases cs.reverse with
  | nil => rfl
  | cons c before =>
    cases break_ : isBreak c with
    | false => simp [break_, Suits]
    | true =>
      cases before with
      | nil => simp [break_, Suits]
      | cons d before => cases second : isBreak d <;> simp [break_, second, Suits]

theorem chompingOf_breaks (given : cs ≠ []) (areBreaks : ∀ c ∈ cs, isBreak c = true) :
    chompingOf cs = .keep := by
  unfold chompingOf
  cases last : cs.reverse with
  | nil => simp_all
  | cons c before =>
    have all : ∀ x ∈ c :: before, isBreak x = true := fun x member =>
      areBreaks x (List.mem_reverse.mp (last ▸ member))
    cases before with
    | nil => simp [all c (by simp)]
    | cons d before => simp [all c (by simp), all d (by simp)]

theorem blockText?_parts {n w : Nat} {head between text : List Char} {chomping : Chomping}
    {increment : Option Nat} {c c' : Cursor} {start : Mark}
    (header : header? (head ++ '\n' :: s) = some (chomping, increment, head.length))
    (isStart : ((m.right 1).right head.length).down 1 = start)
    (blankLines : blankLines? (increment.map (n + ·)) (s.length + 1) 0 ⟨start, s⟩ =
      some (between, c, w))
    (isIndent : (increment.map (n + ·)).getD (max w (n + 1)) = indent)
    (lines : linesFrom? true chomping indent (c.rest.length + 1) [] between false c =
      some (text, c')) :
    blockText? true n ⟨m, '|' :: (head ++ '\n' :: s)⟩ = some (.ofList text, c') := by
  have behind : (⟨m, '|' :: (head ++ '\n' :: s)⟩ : Cursor).right 1 =
      ⟨m.right 1, head ++ '\n' :: s⟩ := rfl
  have lineEnd : (⟨m.right 1, head ++ '\n' :: s⟩ : Cursor).right head.length =
      ⟨(m.right 1).right head.length, '\n' :: s⟩ := by simp [Cursor.right]
  have break_ : (⟨(m.right 1).right head.length, '\n' :: s⟩ : Cursor).lineBreak? =
      some ('\n', ⟨start, s⟩) := isStart ▸ lineBreak?_plain (Or.inl rfl)
  have noBlank : isBlank '\n' = false := by decide
  have outer : ((n : Int) + 1).toNat = n + 1 := by omega
  simp [blockText?, behind, header, lineEnd, Cursor.takeWhile, noBlank, right_zero, break_, outer,
    blankLines, isIndent, lines]

theorem leading_breaks (printable : ∀ c ∈ cs, isPrintable c = true) :
    ∃ bs rest, cs = bs ++ rest ∧ (∀ b ∈ bs, IsPlainBreak b) ∧ Unbroken rest ∧
      Parted (isBreak · = false) rest := by
  have parted : Parted (isBreak · = false) cs := by
    refine parted_of_alike (fun c member => ?_) fun u a b v split hollowA hollowB => ?_
    · cases break_ : isBreak c with
      | false => exact Or.inl rfl
      | true =>
        have plain := plainBreak_of_printable (printable c member) break_
        exact Or.inr ⟨by simp, Or.inr plain⟩
    · have isA : a ≠ ' ' := by rintro rfl; exact hollowA rfl
      have isB : b ≠ ' ' := by rintro rfl; exact hollowB rfl
      simp [isA, isB]
  have noBreaks : ∀ b ∈ ([] : List Char), IsPlainBreak b := by simp
  cases parted with
  | last inRun =>
    exact ⟨[], cs, rfl, noBreaks, fun c first => inRun c (List.mem_of_mem_head? first), .last inRun⟩
  | @next run gap rest inRun isGap behind parted =>
    cases run with
    | nil =>
      refine ⟨gap, rest, rfl, fun b member => ?_, behind, parted⟩
      have break_ : isBreak b = true := by simpa using isGap.hollow b member
      exact plainBreak_of_printable (printable b (by simp [member])) break_
    | cons c run =>
      refine ⟨[], _, rfl, noBreaks, fun x first => ?_, .next inRun isGap behind parted⟩
      exact inRun x (by simp_all)

section Whole

variable {n : Nat} {body head text content : List Char} {chomping : Chomping}

/-- A text of empty lines alone, of which all are kept. -/
theorem blockText?_empty (header : ∀ s, header? (head ++ '\n' :: s) =
      some (.keep, some 2, head.length)) (plain : ∀ b ∈ bs, IsPlainBreak b) (outside : k ≤ n)
    (ungapped : Ungapped body) :
    ∃ c, blockText? true n ⟨m, '|' :: (head ++ '\n' :: (bs ++ (spaces k ++ body)))⟩ =
      some (.ofList bs, c) ∧ c.rest = body ∧ c.mark.column = k := by
  have noSpace : body.head? ≠ some ' ' := fun space => absurd (ungapped ' ' space) (by decide)
  have noTab : body.head? ≠ some '\t' := fun tab => absurd (ungapped '\t' tab) (by decide)
  obtain ⟨c, w, blankLines, behind, column⟩ : ∃ c w, blankLines? (some (n + 2))
      ((bs ++ (spaces k ++ body)).length + 1) 0
        ⟨((m.right 1).right head.length).down 1, bs ++ (spaces k ++ body)⟩ = some (bs, c, w) ∧
          c.rest = body ∧ c.mark.column = k :=
    blankLines?_known plain rfl (Or.inr ⟨by omega, noSpace⟩) ungapped.unbroken noTab
      (by simp only [List.length_append]; omega)
  have lines : linesFrom? true .keep (n + 2) (c.rest.length + 1) [] bs false c = some (bs, c) := by
    rw [linesFrom?_end (by omega)]
    rfl
  exact ⟨c, blockText?_parts (header _) rfl blankLines rfl lines, behind, column⟩

variable (lines : ∀ {mark : Mark}, mark.column = n + 2 → ∃ c, linesFrom? true chomping (n + 2)
  (content.length + 1) [] bs false ⟨mark, content⟩ = some (text, c) ∧
    c.rest = body ∧ c.mark.column = k)
include lines

theorem blockText?_hinted (header : ∀ s, header? (head ++ '\n' :: s) =
      some (chomping, some 2, head.length)) (plain : ∀ b ∈ bs, IsPlainBreak b)
    (unbroken : Unbroken content) (noTab : content.head? ≠ some '\t') :
    ∃ c, blockText? true n ⟨m, '|' :: (head ++ '\n' :: (bs ++ (spaces (n + 2) ++ content)))⟩ =
      some (.ofList text, c) ∧ c.rest = body ∧ c.mark.column = k := by
  obtain ⟨⟨mark, _⟩, w, blankLines, rfl, column⟩ : ∃ c w, blankLines? (some (n + 2))
      ((bs ++ (spaces (n + 2) ++ content)).length + 1) 0
        ⟨((m.right 1).right head.length).down 1, bs ++ (spaces (n + 2) ++ content)⟩ =
          some (bs, c, w) ∧ c.rest = content ∧ c.mark.column = n + 2 :=
    blankLines?_known plain rfl (Or.inl rfl) unbroken noTab
      (by simp only [List.length_append]; omega)
  obtain ⟨c, linesRead, behind, columnBehind⟩ := lines column
  exact ⟨c, blockText?_parts (header _) rfl blankLines rfl linesRead, behind, columnBehind⟩

theorem blockText?_shown (header : ∀ s, header? (head ++ '\n' :: s) =
      some (chomping, none, head.length)) (isNil : bs = []) (ungapped : Ungapped content) :
    ∃ c, blockText? true n ⟨m, '|' :: (head ++ '\n' :: (spaces (n + 2) ++ content))⟩ =
      some (.ofList text, c) ∧ c.rest = body ∧ c.mark.column = k := by
  subst isNil
  have column : ((((m.right 1).right head.length).down 1).right (n + 2)).column = n + 2 := by
    simp [Mark.right, Mark.down]
  obtain ⟨c, linesRead, behind, columnBehind⟩ := lines column
  have isIndent : max (n + 2) (n + 1) = n + 2 := by omega
  exact ⟨c, blockText?_parts (header _) rfl (blankLines?_shown rfl ungapped) isIndent linesRead,
    behind, columnBehind⟩

omit lines

/-- A literal text is read to its last line; the next line shows the end by its smaller indent. -/
theorem blockText?_written (printable : ∀ c ∈ cs, isPrintable c = true) (given : cs ≠ [])
    (outside : k ≤ n) (ungapped : Ungapped body) :
    ∃ c, blockText? true n ⟨m, literalHeader cs ++ '\n' ::
        (literalLines (n + 2) true cs ++ (spaces k ++ body))⟩ = some (.ofList cs, c) ∧
      c.rest = body ∧ c.mark.column = k := by
  have noTab : '\t' ∉ cs := fun tab => absurd (printable '\t' tab) (by decide)
  have suits := suits_chompingOf cs
  obtain ⟨head, isHeader, header⟩ := header?_literalHeader cs
  rw [isHeader, List.cons_append]
  obtain ⟨bs, rest, rfl, plain, unbroken, parted⟩ := leading_breaks printable
  have areBreaks : ∀ b ∈ bs, isBreak b = true := fun b member => isBreak_of_plain (plain b member)
  by_cases last : rest = []
  · subst last
    rw [List.append_nil] at given header ⊢
    obtain ⟨b, others, isFirst⟩ := List.exists_cons_of_ne_nil given
    have isBreak_first : isBreak b = true := areBreaks b (by simp [isFirst])
    have hinted : startsWithGap bs = true := by simp [startsWithGap, isFirst, isBreak_first]
    have written : literalLines (n + 2) true bs = bs := by
      simpa [literalLines] using literalLines_breaks (s := []) given areBreaks
    rw [hinted, chompingOf_breaks given areBreaks] at header
    rw [written]
    exact blockText?_empty header plain outside ungapped
  · rw [trailing_append last unbroken] at suits
    have noTabInside : '\t' ∉ rest := fun tab => noTab (by simp [tab])
    have lines {mark : Mark} (column : mark.column = n + 2) :
        ∃ c, linesFrom? true (chompingOf (bs ++ rest)) (n + 2)
          ((literalLines (n + 2) false rest ++ (spaces k ++ body)).length + 1) [] bs false
          ⟨mark, literalLines (n + 2) false rest ++ (spaces k ++ body)⟩ = some (bs ++ rest, c) ∧
            c.rest = body ∧ c.mark.column = k := by
      have written : rest.length ≤ (literalLines (n + 2) false rest).length :=
        length_le_literalLines rest
      exact linesFrom?_written parted last unbroken noTabInside suits column (by omega) ungapped
        (by simp only [List.length_append]; omega)
    have first : (literalLines (n + 2) false rest ++ (spaces k ++ body)).head? = rest.head? :=
      literalLines_head last unbroken
    rw [literalLines_leading areBreaks last unbroken, List.append_assoc, List.append_assoc]
    cases hinted : startsWithGap (bs ++ rest) with
    | true =>
      rw [hinted] at header
      exact blockText?_hinted lines header plain (fun c isFirst => unbroken c (first ▸ isFirst))
        fun tab => noTabInside (List.mem_of_mem_head? (first ▸ tab))
    | false =>
      rw [hinted] at header
      obtain rfl : bs = [] := by
        cases bs with
        | nil => rfl
        | cons b bs => simp [startsWithGap, areBreaks b (by simp)] at hinted
      refine blockText?_shown lines header rfl fun c isFirst => ?_
      rw [first] at isFirst
      refine ⟨?_, unbroken c isFirst⟩
      rw [Bool.eq_false_iff]
      intro blank
      have space := eq_space_of_printable (printable c (List.mem_of_mem_head? isFirst)) blank
      simp [startsWithGap, isFirst, space, isSpace] at hinted

end Whole

end InfraLint.Yaml
