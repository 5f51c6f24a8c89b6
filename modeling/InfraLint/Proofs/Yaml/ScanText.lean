import InfraLint.Proofs.Yaml.Literal
import InfraLint.Proofs.Yaml.Printable
import InfraLint.Proofs.Yaml.Quoted
import InfraLint.Proofs.Yaml.Scan

/-!
Tokens of which values are made: scalars in each style, hyphens and empty lists.
-/
namespace InfraLint.Yaml

def styleOf (s : String) : Style :=
  match Layout.quoting s with
  | .plain => .plain
  | .single => .quoted
  | .double => .quoted
  | .literal => .literal

namespace Scan
open Layout (spaces allowsPlain allowsSingleQuotes allowsLiteral isPrintable quoting writeText)

variable {s p : Scan} {rest : List Char} {kinds : List TokenKind} {indent : Int} {outer : List Int}
  {next : NextLine} {n : Nat} {cs : List Char}

/-! Behind the space in front of a value -/

theorem Behind.prepared (behind : s.Behind (' ' :: rest) kinds indent outer) (word : AtWord rest) :
    ∃ p, s.prepare? = some p ∧ p.Behind rest kinds indent outer := by
  have cursor : s.cursor = ⟨s.mark, spaces 1 ++ rest⟩ := by
    rw [show spaces 1 ++ rest = s.rest from behind.ahead.symm]
    rfl
  have inside : indent ≤ (s.mark.right 1).column := by
    have inside := behind.inside
    simp only [Mark.right]
    omega
  obtain ⟨p, prepared, holds, there, _⟩ := behind.toHolds.prepared word cursor inside
  refine ⟨p, prepared, holds, ?_, ?_⟩
  · rw [Scan.rest, there]
  · have inside := behind.inside
    simp only [mark, there, Mark.right] at inside ⊢
    omega

theorem Behind.cursor (behind : s.Behind rest kinds indent outer) : s.cursor = ⟨s.mark, rest⟩ := by
  rw [← behind.ahead]
  rfl

theorem Behind.noEdge (behind : s.Behind rest kinds n outer) : s.cursor.atEdge = false := by
  have column : s.cursor.mark.column ≠ 0 := by
    have inside := behind.inside
    rw [mark] at inside
    omega
  simp [Cursor.atEdge, column]

theorem Behind.away (behind : s.Behind rest kinds indent outer) : s.indent ≠ s.mark.column := by
  have inside := behind.inside
  rw [behind.block]
  omega

theorem Behind.reaches {c : Char} {reached : Scan → Prop}
    (behind : s.Behind (' ' :: c :: rest) kinds indent outer) (word : AtWord (c :: rest))
    (step : ∀ p : Scan, p.Behind (c :: rest) kinds indent outer →
      ∃ t, p.next? c rest = some t ∧ t.rest.length ≤ rest.length ∧ reached t) :
    ∃ t, Reaches s t ∧ reached t := by
  obtain ⟨p, prepared, there⟩ := behind.prepared word
  obtain ⟨t, taken, shorter, holds⟩ := step p there
  refine ⟨t, reaches_of_next prepared there.ahead taken ?_, holds⟩
  rw [behind.ahead, List.length_cons, List.length_cons]
  omega

/-! Scalars -/

section Scalars

variable {text : String} {style : Style} {c : Cursor} {ended : Bool}

theorem passScalar_holds (holds : s.Holds kinds indent outer) (away : s.indent ≠ s.mark.column) :
    (s.passScalar text style c ended).Holds (kinds ++ [.scalar text style]) indent outer := by
  refine ⟨⟨holds.flat, holds.toIdle.behind away⟩, ?_, ?_, holds.block, holds.blocks⟩
  · simp [passScalar, push, ← holds.taken]
  · simp [passScalar, push, holds.counted]

/-- A plain scalar ends where the next line starts. -/
theorem Behind.passPlain (behind : s.Behind (' ' :: (cs ++ '\n' :: next.written)) kinds n outer)
    (allowed : allowsPlain cs = true) (given : cs ≠ []) (outside : next.column ≤ n) :
    ∃ t, Reaches s t ∧ t.Line next (kinds ++ [.scalar (.ofList cs) .plain]) n outer := by
  obtain ⟨line, _⟩ := oneLine_of_allowsPlain allowed given
  have noStart : Layout.startsWithIndicator cs = false := by
    simp only [allowsPlain, Bool.and_eq_true, Bool.not_eq_true'] at allowed
    exact allowed.1.2
  obtain ⟨c, rest, rfl⟩ := List.exists_cons_of_ne_nil given
  obtain ⟨noIndicator, apart⟩ := not_startsWithIndicator noStart
  have starts : StartsPlain c (rest ++ '\n' :: next.written) :=
    ⟨ungapped_cons.mp line.first, noIndicator, fun alone => atGap_append (apart alone)⟩
  have word : AtWord (c :: (rest ++ '\n' :: next.written)) :=
    ⟨ungapped_cons.mpr (ungapped_cons.mp line.first), line.hash⟩
  rw [List.cons_append] at behind
  refine behind.reaches word fun p there => ?_
  obtain ⟨cursor, read, isRest, column⟩ : ∃ cursor, plain? false n
      ⟨p.mark, c :: rest ++ '\n' :: (spaces next.column ++ next.text)⟩ =
        some (.ofList (c :: rest), cursor, true) ∧ cursor.rest = next.text ∧
        cursor.mark.column = next.column :=
    plain?_line allowed given there.inside (Int.ofNat_le.mpr outside) next.word.ungapped
  refine ⟨p.passScalar (.ofList (c :: rest)) .plain cursor true, ?_, ?_, ?_⟩
  · rw [next?_plain starts there.flat there.noEdge]
    refine readPlain?_idle there.toIdle ?_
    rw [there.block, there.cursor]
    exact read
  · show cursor.rest.length ≤ _
    rw [isRest]
    simp only [NextLine.written, List.length_append, List.length_cons]
    omega
  · exact ⟨passScalar_holds there.toHolds there.away, rfl, column, isRest⟩

theorem quoteOf_word (single : Bool) : AtWord (quoteOf single :: rest) := by
  cases single
  · exact ⟨ungapped_cons.mpr (by decide), by simp [quoteOf]⟩
  · exact ⟨ungapped_cons.mpr (by decide), by simp [quoteOf]⟩

theorem next?_quote {single : Bool} (behind : p.Behind (quoteOf single :: rest) kinds n outer) :
    p.next? (quoteOf single) rest = p.readQuoted? single := by
  cases single <;> simp [next?, quoteOf, behind.noEdge]

theorem readQuoted?_idle {single : Bool} (idle : s.Idle)
    (read : quoted? single s.cursor = some (text, c)) :
    s.readQuoted? single = some (s.passScalar text .quoted c false) := by
  have read : quoted? single ({ s with blockKey := s.keyBehind } : Scan).cursor =
      some (text, c) := read
  rw [readQuoted?, saveKey?_idle idle]
  simp only [Option.bind_eq_bind, Option.bind_some, read]
  rfl

theorem Behind.passQuoted {single : Bool} {f : Char → List Char} {w : List Char}
    (behind : s.Behind (' ' :: quoteOf single :: (w ++ '\n' :: next.written)) kinds n outer)
    (quoted : Quoted single f cs w) :
    ∃ t, Reaches s t ∧ t.Line next (kinds ++ [.scalar (.ofList cs) .quoted]) n outer := by
  obtain ⟨t, first, holds, isRest⟩ : ∃ t, Reaches s t ∧
      (t.Holds (kinds ++ [.scalar (.ofList cs) .quoted]) n outer ∧
        t.rest = '\n' :: next.written) := by
    refine behind.reaches (quoteOf_word single) fun p there => ?_
    obtain ⟨cursor, read, isRest⟩ : ∃ cursor, quoted? single
        ⟨p.mark, quoteOf single :: (w ++ '\n' :: next.written)⟩ = some (.ofList cs, cursor) ∧
          cursor.rest = '\n' :: next.written := quoted?_read quoted (by simp)
    refine ⟨p.passScalar (.ofList cs) .quoted cursor false, ?_, ?_, ?_, isRest⟩
    · rw [next?_quote there]
      exact readQuoted?_idle there.toIdle (there.cursor ▸ read)
    · show cursor.rest.length ≤ _
      simp [isRest]
    · exact passScalar_holds there.toHolds there.away
  obtain ⟨u, second, line⟩ := holds.newLine isRest
  exact ⟨u, first.trans second, line⟩

def passLiteral (text : String) (c : Cursor) (s : Scan) : Scan :=
  { ({ s with blockKey := none } : Scan).push (.scalar text .literal) s.mark c.mark with
    cursor := c, keyAllowed := true }

theorem readLiteral?_idle (idle : s.Idle)
    (read : blockText? true s.indent s.cursor = some (text, c)) :
    s.readBlockText? true = some (s.passLiteral text c) := by
  have read : blockText? true ({ s with blockKey := none } : Scan).indent
      ({ s with blockKey := none } : Scan).cursor = some (text, c) := read
  rw [readBlockText?, dropKey?_idle idle]
  simp only [Option.bind_eq_bind, Option.bind_some, read]
  rfl

/-- A literal scalar takes all its lines. -/
theorem Behind.passLiteral (behind : s.Behind (' ' :: (Layout.literalHeader cs ++ '\n' ::
      (Layout.literalLines (n + 2) true cs ++ next.written))) kinds n outer)
    (printable : ∀ c ∈ cs, isPrintable c = true) (given : cs ≠ []) (outside : next.column ≤ n) :
    ∃ t, Reaches s t ∧ t.Line next (kinds ++ [.scalar (.ofList cs) .literal]) n outer := by
  obtain ⟨head, isHeader⟩ : ∃ head, Layout.literalHeader cs = '|' :: head := ⟨_, rfl⟩
  rw [isHeader, List.cons_append] at behind
  refine behind.reaches ⟨ungapped_cons.mpr (by decide), by simp⟩ fun p there => ?_
  obtain ⟨cursor, read, isRest, column⟩ : ∃ cursor, blockText? true n ⟨p.mark,
      Layout.literalHeader cs ++ '\n' ::
        (Layout.literalLines (n + 2) true cs ++ (spaces next.column ++ next.text))⟩ =
        some (.ofList cs, cursor) ∧ cursor.rest = next.text ∧ cursor.mark.column = next.column :=
    blockText?_written printable given outside next.word.ungapped
  refine ⟨p.passLiteral (.ofList cs) cursor, ?_, ?_, ?_⟩
  · have toText : p.next? '|' (head ++ '\n' ::
        (Layout.literalLines (n + 2) true cs ++ next.written)) = p.readBlockText? true := by
      simp [next?, there.noEdge, inFlow, there.flat]
    rw [toText]
    refine readLiteral?_idle there.toIdle ?_
    rw [there.block, there.cursor, ← List.cons_append, ← isHeader]
    exact read
  · show cursor.rest.length ≤ _
    rw [isRest]
    simp only [NextLine.written, List.length_append, List.length_cons]
    omega
  · refine ⟨⟨⟨there.flat, by simp [Scan.passLiteral, push]⟩, ?_, ?_, there.block, there.blocks⟩,
      rfl, column, isRest⟩
    · simp [Scan.passLiteral, push, ← there.taken]
    · simp [Scan.passLiteral, push, there.counted]

end Scalars

theorem Behind.passText {text : String}
    (behind : s.Behind (writeText (n + 2) text ++ next.written) kinds n outer)
    (outside : next.column ≤ n) :
    ∃ t, Reaches s t ∧ t.Line next (kinds ++ [.scalar text (styleOf text)]) n outer := by
  have isText : String.ofList text.toList = text := String.ofList_toList
  have suited := Layout.isSuited_quoting text
  unfold writeText at behind
  unfold styleOf
  cases style : quoting text with
  | plain =>
    simp only [style, List.cons_append, List.append_assoc, List.nil_append] at behind
    simp only [style, Layout.IsSuited] at suited
    exact isText ▸ behind.passPlain suited.1 suited.2 outside
  | single =>
    simp only [style, List.cons_append, List.append_assoc, List.nil_append] at behind
    simp only [style, Layout.IsSuited] at suited
    exact isText ▸ behind.passQuoted (quoted_single (n + 1) suited.1 suited.2)
  | double =>
    have whole : ' ' :: '"' :: text.toList.flatMap Layout.escapedChar ++ ['"', '\n'] ++
        next.written = ' ' :: quoteOf false ::
          (text.toList.flatMap Layout.escapedChar ++ ['"'] ++ '\n' :: next.written) := by
      simp [quoteOf]
    simp only [style, whole] at behind
    exact isText ▸ behind.passQuoted (quoted_double text.toList)
  | literal =>
    simp only [style, List.cons_append, List.append_assoc] at behind
    simp only [style, Layout.IsSuited] at suited
    exact isText ▸ behind.passLiteral suited.1 suited.2 outside

/-! Lists -/

theorem Line.passHyphen (line : s.Line next kinds n outer) (column : next.column = n)
    (text : next.text = '-' :: ' ' :: rest) :
    ∃ t, Reaches s t ∧ t.Behind (' ' :: rest) (kinds ++ [.blockEntry]) n outer := by
  obtain ⟨p, prepared, there⟩ := line.prepared (by omega)
  have isColumn : p.mark.column = n := there.column.trans column
  have noEdge : p.cursor.atEdge = false := by
    simp [there.cursor, text, Cursor.atEdge, atDocumentEdge]
  have toEntry : p.next? '-' (' ' :: rest) = p.readBlockEntry? := by
    have gap : atGap (' ' :: rest) = true := rfl
    simp [next?, noEdge, gap]
  have opened : p.openBlock p.mark.column p.count .blockSequence p.mark = p := by
    simp [openBlock, there.block, isColumn]
  have read : p.readBlockEntry? =
      some ({ p with blockKey := none, keyAllowed := true }.take .blockEntry 1) := by
    have notFlow : p.inFlow = false := by simp [inFlow, there.flat]
    simp only [openImplied?, readBlockEntry?, notFlow, there.keyAllowed, opened]
    simp [dropKey?_idle there.toIdle]
  have ahead : ({ p with blockKey := none, keyAllowed := true }.take .blockEntry 1).rest =
      ' ' :: rest := by
    show (p.cursor.right 1).rest = _
    rw [there.cursor, text]
    rfl
  refine ⟨_, reaches_of_next prepared (there.rest.trans text) (toEntry.trans read) ?_, ?_⟩
  · rw [ahead, line.rest, text]
    simp
  · refine ⟨⟨⟨there.flat, by simp [take, push]⟩, ?_, ?_, there.block, there.blocks⟩, ahead, ?_⟩
    · simp [take, push, ← there.taken]
    · simp [take, push, there.counted]
    · show (n : Int) < (p.mark.column + 1 : Nat)
      omega

def openList (s : Scan) : Scan :=
  { s with blockKey := s.keyBehind, flowKeys := [none], keyAllowed := true }.take .flowSequence 1

def closeList (s : Scan) : Scan :=
  { s with blockKey := s.freshKey, flowKeys := [], keyAllowed := false }.take .flowSequenceEnd 1

theorem openFlow?_idle (idle : s.Idle) : s.openFlow? .flowSequence = some s.openList := by
  rw [openFlow?, saveKey?_idle idle]
  simp [openList, idle.flat]

theorem reaches_closeList (flow : s.flowKeys = [none])
    (free : ∀ key, s.blockKey = some key → key.required = false) (ahead : s.rest = ']' :: rest) :
    Reaches s s.closeList := by
  have word : AtWord s.rest := ahead ▸ ⟨ungapped_cons.mpr (by decide), by simp⟩
  have fresh : s.dropStale? = some { s with blockKey := s.freshKey } := by
    cases key : s.blockKey with
    | none => simp [dropStale?, freshKey, flow, key]
    | some k => simp [dropStale?, freshKey, flow, key, free k key]
  have inFlow : ({ s with blockKey := s.freshKey } : Scan).inFlow = true := by simp [inFlow, flow]
  have prepared : s.prepare? = some { s with blockKey := s.freshKey } := by
    rw [prepare?, toToken_word word, fresh, Option.map_some]
    simp [closeBlocks, inFlow]
  have noEdge : ({ s with blockKey := s.freshKey } : Scan).cursor.atEdge = false := by
    have ahead : s.cursor.rest = ']' :: rest := ahead
    simp [Cursor.atEdge, ahead, atDocumentEdge]
  have next : ({ s with blockKey := s.freshKey } : Scan).next? ']' rest = some s.closeList := by
    simp [next?, noEdge, closeFlow?, dropKey?, currentKey, setKey, flow, closeList]
  refine reaches_of_next prepared ahead next ?_
  show (s.cursor.right 1).rest.length < _
  have ahead : s.cursor.rest = ']' :: rest := ahead
  simp [Cursor.right, Scan.rest, ahead]

theorem Behind.passEmptyList
    (behind : s.Behind (' ' :: '[' :: ']' :: '\n' :: next.written) kinds n outer) :
    ∃ t, Reaches s t ∧
      t.Line next (kinds ++ [.flowSequence, .flowSequenceEnd]) n outer := by
  obtain ⟨t, first, p, there, rfl⟩ : ∃ t, Reaches s t ∧
      ∃ p : Scan, p.Behind ('[' :: ']' :: '\n' :: next.written) kinds n outer ∧ t = p.openList := by
    refine behind.reaches ⟨ungapped_cons.mpr (by decide), by simp⟩ fun p there => ?_
    have toList : p.next? '[' (']' :: '\n' :: next.written) = p.openFlow? .flowSequence := by
      simp [next?, there.noEdge]
    refine ⟨p.openList, toList.trans (openFlow?_idle there.toIdle), ?_, p, there, rfl⟩
    show (p.cursor.right 1).rest.length ≤ _
    rw [there.cursor]
    simp [Cursor.right]
  have free : ∀ key, p.openList.blockKey = some key → key.required = false :=
    there.toIdle.behind there.away
  have ahead : p.openList.rest = ']' :: '\n' :: next.written := by
    show (p.cursor.right 1).rest = _
    rw [there.cursor]
    rfl
  have second := reaches_closeList rfl free ahead
  have isRest : p.openList.closeList.rest = '\n' :: next.written := by
    show (p.openList.cursor.right 1).rest = _
    have ahead : p.openList.cursor.rest = _ := ahead
    rw [Cursor.right, ahead]
    rfl
  have holds : p.openList.closeList.Holds (kinds ++ [.flowSequence, .flowSequenceEnd]) n outer := by
    refine ⟨⟨rfl, fun key known => ?_⟩, ?_, ?_, there.block, there.blocks⟩
    · exact free key (blockKey_of_freshKey known)
    · simp [closeList, openList, take, push, ← there.taken]
    · simp [closeList, openList, take, push, there.counted]
  obtain ⟨u, third, line⟩ := holds.newLine isRest
  exact ⟨u, (first.trans second).trans third, line⟩

end Scan
end InfraLint.Yaml
