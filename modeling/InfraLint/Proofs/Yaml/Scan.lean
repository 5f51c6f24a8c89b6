import InfraLint.Proofs.Yaml.Plain
import InfraLint.Yaml.Token

/-!
Steps of the scanner. Between two tokens it goes on to the next one and closes the blocks that end
there; one token taken leads from one state to the next, however much room is left.
-/
namespace InfraLint.Yaml.Scan
open Layout (spaces)

variable {s t u p : Scan} {outer : List Int} {i : Int}

def prepare? (s : Scan) : Option Scan :=
  (s.toToken (s.rest.length + 1)).dropStale?.map fun s => s.closeBlocks s.mark.column

theorem run?_succ (fuel : Nat) (s : Scan) : run? (fuel + 1) s = s.prepare?.bind fun p =>
    match p.rest with
    | [] => p.finish?
    | c :: after => (p.next? c after).bind (run? fuel) := by
  rw [run?, prepare?]
  cases (s.toToken (s.rest.length + 1)).dropStale? with
  | none => rfl
  | some s => rfl

/-- Scanning from `s` is scanning from `t`. -/
def Reaches (s t : Scan) : Prop :=
  ∀ fuel, s.rest.length < fuel → ∃ fuel', t.rest.length < fuel' ∧ run? fuel s = run? fuel' t

theorem Reaches.refl (s : Scan) : Reaches s s := fun fuel room => ⟨fuel, room, rfl⟩

theorem Reaches.trans (first : Reaches s t) (second : Reaches t u) : Reaches s u := by
  intro fuel room
  obtain ⟨fuel', room', same⟩ := first fuel room
  obtain ⟨fuel'', room'', same'⟩ := second fuel' room'
  exact ⟨fuel'', room'', same.trans same'⟩

theorem reaches_of_prepare (same : s.prepare? = t.prepare?)
    (shorter : t.rest.length ≤ s.rest.length) : Reaches s t := by
  intro fuel room
  refine ⟨fuel, by omega, ?_⟩
  obtain ⟨fuel, rfl⟩ : ∃ k, fuel = k + 1 := ⟨fuel - 1, by omega⟩
  rw [run?_succ, run?_succ, same]

theorem reaches_of_next {c : Char} {after : List Char} (prepared : s.prepare? = some p)
    (ahead : p.rest = c :: after) (next : p.next? c after = some t)
    (shorter : t.rest.length < s.rest.length) : Reaches s t := by
  intro fuel room
  obtain ⟨fuel, rfl⟩ : ∃ k, fuel = k + 1 := ⟨fuel - 1, by omega⟩
  refine ⟨fuel, by omega, ?_⟩
  rw [run?_succ, prepared]
  simp [ahead, next]

/-! To the next token -/

structure AtWord (s : List Char) : Prop where
  ungapped : Ungapped s
  noComment : s.head? ≠ some '#'

theorem skipInLine_spaces {m : Mark} {n : Nat} {rest : List Char}
    (cursor : s.cursor = ⟨m, spaces n ++ rest⟩)
    (noBlank : ∀ c, rest.head? = some c → isBlank c = false) (noComment : rest.head? ≠ some '#') :
    s.skipInLine = { s with cursor := ⟨m.right n, rest⟩ } := by
  have stop (tabs : Bool) : rest.takeWhile (fun x => x == ' ' || tabs && x == '\t') = [] ∧
      rest.dropWhile (fun x => x == ' ' || tabs && x == '\t') = rest := by
    cases rest with
    | nil => exact ⟨rfl, rfl⟩
    | cons c rest =>
      have solid := noBlank c rfl
      simp only [isBlank, Bool.or_eq_false_iff] at solid
      simp [solid.1, solid.2]
  have skip : ∀ c ∈ spaces n, ∀ tabs : Bool, (c == ' ' || tabs && c == '\t') = true := by
    simp [spaces]
  have taken (tabs : Bool) : (spaces n ++ rest).takeWhile (fun x => x == ' ' || tabs && x == '\t') =
      spaces n := by
    rw [List.takeWhile_append_of_pos fun c member => skip c member tabs, (stop tabs).1,
      List.append_nil]
  have dropped (tabs : Bool) :
      (spaces n ++ rest).dropWhile (fun x => x == ' ' || tabs && x == '\t') = rest := by
    rw [List.dropWhile_append_of_pos fun c member => skip c member tabs, (stop tabs).2]
  simp only [skipInLine, cursor, Cursor.takeWhile, taken, dropped, noComment, if_false]
  simp [spaces]

theorem toToken_here {m : Mark} {n : Nat} {rest : List Char} (word : AtWord rest)
    (cursor : s.cursor = ⟨m, spaces n ++ rest⟩) (fuel : Nat) :
    s.toToken (fuel + 1) = { s with cursor := ⟨m.right n, rest⟩ } := by
  have skipped := skipInLine_spaces cursor (fun c first => (word.ungapped c first).1) word.noComment
  have stop : (⟨m.right n, rest⟩ : Cursor).lineBreak? = none :=
    lineBreak?_none word.ungapped.unbroken
  simp [toToken, skipped, stop]

theorem toToken_newLine {m : Mark} {n : Nat} {rest : List Char} (word : AtWord rest)
    (flat : s.flowKeys = []) (cursor : s.cursor = ⟨m, '\n' :: (spaces n ++ rest)⟩) (fuel : Nat) :
    s.toToken (fuel + 2) =
      { s with cursor := ⟨(m.down 1).right n, rest⟩, keyAllowed := true } := by
  have skipped : s.skipInLine = { s with cursor := ⟨m, '\n' :: (spaces n ++ rest)⟩ } :=
    skipInLine_spaces (n := 0) cursor (by simp [isBlank]) (by simp)
  have break_ : (⟨m, '\n' :: (spaces n ++ rest)⟩ : Cursor).lineBreak? =
      some ('\n', ⟨m.down 1, spaces n ++ rest⟩) := lineBreak?_plain (Or.inl rfl)
  rw [toToken, skipped]
  simp only [break_]
  rw [toToken_here word rfl]
  simp [inFlow, flat]

/-! Idle states -/

/-- Outside of flow collections, with no key that must not be given up. -/
structure Idle (s : Scan) : Prop where
  flat : s.flowKeys = []
  free : ∀ key, s.blockKey = some key → key.required = false

def freshKey (s : Scan) : Option PossibleKey :=
  if s.blockKey.any (PossibleKey.isStale s.mark) then none else s.blockKey

theorem dropStale?_idle (idle : s.Idle) :
    s.dropStale? = some { s with blockKey := s.freshKey } := by
  cases key : s.blockKey with
  | none => simp [dropStale?, freshKey, idle.flat, key]
  | some k => simp [dropStale?, freshKey, idle.flat, key, idle.free k key]

theorem blockKey_of_freshKey {key : PossibleKey} (fresh : s.freshKey = some key) :
    s.blockKey = some key := by
  simp only [freshKey] at fresh
  split at fresh
  · simp at fresh
  · exact fresh

theorem Idle.fresh (idle : s.Idle) : ({ s with blockKey := s.freshKey } : Scan).Idle :=
  ⟨idle.flat, fun key given => idle.free key (blockKey_of_freshKey given)⟩

theorem closeBlocks_same {column : Int} (within : s.indent ≤ column) :
    s.closeBlocks column = s := by
  unfold closeBlocks
  split
  · rfl
  · cases s.outer with
    | nil => rfl
    | cons i outer => simp [closeBlocks.go, Int.not_lt.mpr within]

def popBlock (outer : List Int) (i : Int) (s : Scan) : Scan :=
  { s.push .blockEnd s.mark s.mark with indent := i, outer := outer }

theorem closeBlocks_pop {column : Int} (flat : s.flowKeys = [])
    (isOuter : s.outer = i :: outer) (outside : column < s.indent) :
    s.closeBlocks column = (s.popBlock outer i).closeBlocks column := by
  have notFlow : s.inFlow = false := by simp [inFlow, flat]
  have notFlow' : (s.popBlock outer i).inFlow = false := notFlow
  simp only [closeBlocks, notFlow, notFlow', isOuter, closeBlocks.go, outside]
  rfl

theorem prepare?_of (there : s.toToken (s.rest.length + 1) = t) (fresh : t.dropStale? = some u)
    (within : u.indent ≤ u.mark.column) : s.prepare? = some u := by
  rw [prepare?, there, fresh, Option.map_some, closeBlocks_same within]

theorem prepare?_idle {m : Mark} {n : Nat} {rest : List Char} (idle : s.Idle) (word : AtWord rest)
    (cursor : s.cursor = ⟨m, spaces n ++ rest⟩) (within : s.indent ≤ (m.right n).column) :
    ∃ key, s.prepare? = some { s with cursor := ⟨m.right n, rest⟩, blockKey := key } ∧
      ({ s with cursor := ⟨m.right n, rest⟩, blockKey := key } : Scan).Idle := by
  have there : ({ s with cursor := ⟨m.right n, rest⟩ } : Scan).Idle := ⟨idle.flat, idle.free⟩
  exact ⟨_, prepare?_of (toToken_here word cursor _) (dropStale?_idle there) within, there.fresh⟩

/-- White space in front of a token plays no part. -/
theorem toToken_word (word : AtWord s.rest) (fuel : Nat) : s.toToken (fuel + 1) = s :=
  toToken_here (n := 0) word rfl fuel

theorem reaches_of_toToken (there : s.toToken (s.rest.length + 1) = t) (word : AtWord t.rest)
    (shorter : t.rest.length ≤ s.rest.length) : Reaches s t := by
  refine reaches_of_prepare ?_ shorter
  rw [prepare?, prepare?, there, toToken_word word]

theorem reaches_pop (idle : s.Idle) (word : AtWord s.rest) (isOuter : s.outer = i :: outer)
    (outside : s.mark.column < s.indent) : Reaches s (s.popBlock outer i) := by
  have idlePopped : (s.popBlock outer i).Idle := ⟨idle.flat, idle.free⟩
  have wordPopped : AtWord (s.popBlock outer i).rest := word
  have popped : ({ s with blockKey := s.freshKey } : Scan).closeBlocks s.mark.column =
      (({ s with blockKey := s.freshKey } : Scan).popBlock outer i).closeBlocks s.mark.column :=
    closeBlocks_pop idle.flat isOuter outside
  refine reaches_of_prepare ?_ (Nat.le_refl _)
  rw [prepare?, prepare?, toToken_word word, toToken_word wordPopped, dropStale?_idle idle,
    dropStale?_idle idlePopped]
  exact congrArg some popped

/-! What a state holds -/

structure NextLine where
  column : Nat
  text : List Char
  word : AtWord text

def NextLine.written (next : NextLine) : List Char := spaces next.column ++ next.text

structure Holds (s : Scan) (kinds : List TokenKind) (indent : Int) (outer : List Int) : Prop
    extends Idle s where
  taken : (s.tokens.map Token.kind).reverse = kinds
  counted : s.count = s.tokens.length
  block : s.indent = indent
  blocks : s.outer = outer

structure Line (s : Scan) (next : NextLine) (kinds : List TokenKind) (indent : Int)
    (outer : List Int) : Prop extends Holds s kinds indent outer where
  keyAllowed : s.keyAllowed = true
  column : s.mark.column = next.column
  rest : s.rest = next.text

structure Behind (s : Scan) (rest : List Char) (kinds : List TokenKind) (indent : Int)
    (outer : List Int) : Prop extends Holds s kinds indent outer where
  ahead : s.rest = rest
  inside : indent < s.mark.column

variable {next : NextLine} {kinds : List TokenKind} {indent : Int}

theorem Holds.newLine (holds : s.Holds kinds indent outer)
    (rest : s.rest = '\n' :: next.written) :
    ∃ t, Reaches s t ∧ t.Line next kinds indent outer := by
  have cursor : s.cursor = ⟨s.mark, '\n' :: (spaces next.column ++ next.text)⟩ := by
    rw [← NextLine.written, ← rest]
    rfl
  have length : s.rest.length = next.written.length + 1 := by rw [rest, List.length_cons]
  have there := toToken_newLine next.word holds.flat cursor next.written.length
  rw [show next.written.length + 2 = s.rest.length + 1 by omega] at there
  have shorter : next.text.length ≤ s.rest.length := by
    simp only [length, NextLine.written, List.length_append]
    omega
  refine ⟨_, reaches_of_toToken there next.word shorter, ?_⟩
  exact ⟨⟨⟨holds.flat, holds.free⟩, holds.taken, holds.counted, holds.block, holds.blocks⟩, rfl,
    by simp [mark, Mark.right, Mark.down], rfl⟩

/-- In front of a line with a smaller indent a block ends. -/
theorem Line.pop (line : s.Line next kinds indent (i :: outer)) (outside : next.column < indent) :
    ∃ t, Reaches s t ∧ t.Line next (kinds ++ [.blockEnd]) i outer := by
  have word : AtWord s.rest := line.rest ▸ next.word
  have column : s.mark.column < s.indent := by rwa [line.column, line.block]
  refine ⟨s.popBlock outer i, reaches_pop line.toIdle word line.blocks column, ?_⟩
  refine ⟨⟨⟨line.flat, line.free⟩, ?_, ?_, rfl, rfl⟩, line.keyAllowed, line.column, line.rest⟩
  · simp [popBlock, push, ← line.taken]
  · simp [popBlock, push, line.counted]

theorem Holds.prepared {m : Mark} {n : Nat} {rest : List Char}
    (holds : s.Holds kinds indent outer) (word : AtWord rest)
    (cursor : s.cursor = ⟨m, spaces n ++ rest⟩) (within : indent ≤ (m.right n).column) :
    ∃ p, s.prepare? = some p ∧ p.Holds kinds indent outer ∧ p.cursor = ⟨m.right n, rest⟩ ∧
      p.keyAllowed = s.keyAllowed := by
  obtain ⟨key, prepared, idle⟩ := prepare?_idle holds.toIdle word cursor (holds.block.symm ▸ within)
  exact ⟨_, prepared, ⟨idle, holds.taken, holds.counted, holds.block, holds.blocks⟩, rfl, rfl⟩

theorem Line.cursor (line : s.Line next kinds indent outer) : s.cursor = ⟨s.mark, next.text⟩ := by
  rw [← line.rest]
  rfl

theorem Line.prepared (line : s.Line next kinds indent outer) (within : indent ≤ next.column) :
    ∃ p, s.prepare? = some p ∧ p.Line next kinds indent outer := by
  have inside : indent ≤ (s.mark.right 0).column := by rwa [right_zero, line.column]
  obtain ⟨p, prepared, holds, cursor, allowed⟩ :=
    line.toHolds.prepared (n := 0) next.word line.cursor inside
  refine ⟨p, prepared, holds, allowed.trans line.keyAllowed, ?_, ?_⟩
  · rw [mark, cursor]
    exact line.column
  · rw [Scan.rest, cursor]

/-! Tokens -/

def keyHere (s : Scan) : PossibleKey := ⟨s.indent == s.mark.column, s.count, s.mark⟩

theorem dropKey?_idle (idle : s.Idle) : s.dropKey? = some { s with blockKey := none } := by
  have current : s.currentKey = s.blockKey := by simp [currentKey, idle.flat]
  cases key : s.blockKey with
  | none => simp [dropKey?, current, key, setKey, idle.flat]
  | some k => simp [dropKey?, current, key, setKey, idle.flat, idle.free k key]

theorem saveKey?_allowed (idle : s.Idle) (allowed : s.keyAllowed = true) :
    s.saveKey? = some { s with blockKey := some s.keyHere } := by
  simp [saveKey?, allowed, dropKey?_idle idle, setKey, idle.flat, inFlow, keyHere, mark]

theorem saveKey?_refused (refused : s.keyAllowed = false) : s.saveKey? = some s := by
  simp [saveKey?, refused]

structure StartsPlain (c : Char) (after : List Char) : Prop where
  solid : IsSolid c
  noIndicator : c ∉ indicators
  alone : c = '-' ∨ c = '?' ∨ c = ':' → atGap after = false

theorem startsPlain_of {c : Char} {after : List Char} (starts : StartsPlain c after) :
    startsPlain false c after = true := by
  obtain ⟨⟨blank, break_⟩, noIndicator, alone⟩ := starts
  unfold startsPlain
  split
  · have gap := alone (Or.inl rfl)
    cases after with
    | nil => rfl
    | cons x after =>
      rw [atGap, Bool.or_eq_false_iff] at gap
      simp [gap.1]
  · simp [alone (Or.inr (Or.inl rfl))]
  · simp [alone (Or.inr (Or.inr rfl))]
  · have noMember : indicators.contains c = false := by
      rw [← Bool.not_eq_true, List.contains_iff_mem]
      exact noIndicator
    unfold indicators at noMember
    rw [noMember, blank, break_]
    rfl

theorem next?_plain {c : Char} {after : List Char} (starts : StartsPlain c after)
    (flat : s.flowKeys = []) (noEdge : s.cursor.atEdge = false) :
    s.next? c after = s.readPlain? := by
  have notFlow : s.inFlow = false := by simp [inFlow, flat]
  have other {x : Char} (member : x ∈ indicators) (b : Bool) : (c == x && b) = false := by
    rw [Bool.and_eq_false_imp]
    intro same
    exact absurd (eq_of_beq same ▸ member) starts.noIndicator
  have apart {x : Char} (isAlone : x = '-' ∨ x = '?' ∨ x = ':') :
      (c == x && atGap after) = false := by
    rw [Bool.and_eq_false_imp]
    intro same
    exact starts.alone (eq_of_beq same ▸ isAlone)
  have noPercent : (s.mark.column = 0 && c == '%') = false := by
    rw [Bool.and_comm]
    exact other (by decide) _
  unfold next?
  simp only [noPercent, noEdge, Bool.false_eq_true, if_false]
  split
  iterate 10 exact absurd (show _ ∈ indicators by decide) starts.noIndicator
  simp only [notFlow, Bool.false_or, apart (Or.inl rfl), apart (Or.inr (Or.inl rfl)),
    apart (Or.inr (Or.inr rfl)), other (show '|' ∈ indicators by decide),
    other (show '>' ∈ indicators by decide), startsPlain_of starts, Bool.false_eq_true, if_false,
    if_true]

def keyBehind (s : Scan) : Option PossibleKey := if s.keyAllowed then some s.keyHere else s.blockKey

theorem saveKey?_idle (idle : s.Idle) : s.saveKey? = some { s with blockKey := s.keyBehind } := by
  by_cases allowed : s.keyAllowed = true
  · have behind : s.keyBehind = some s.keyHere := by simp [keyBehind, allowed]
    rw [saveKey?_allowed idle allowed, behind]
  · have behind : s.keyBehind = s.blockKey := by simp [keyBehind, allowed]
    rw [saveKey?_refused (Bool.not_eq_true _ ▸ allowed), behind]

/-- Away from the indent of the block no key is required. -/
theorem Idle.behind (idle : s.Idle) (away : s.indent ≠ s.mark.column) :
    ∀ key, s.keyBehind = some key → key.required = false := by
  intro key behind
  unfold keyBehind at behind
  split at behind
  · obtain rfl := Option.some.inj behind
    exact beq_eq_false_iff_ne.mpr away
  · exact idle.free key behind

def passScalar (text : String) (style : Style) (c : Cursor) (ended : Bool) (s : Scan) : Scan :=
  { s.push (.scalar text style) s.mark c.mark with
    cursor := c, keyAllowed := ended, blockKey := s.keyBehind }

theorem readPlain?_idle {text : String} {c : Cursor} {ended : Bool} (idle : s.Idle)
    (read : plain? false s.indent s.cursor = some (text, c, ended)) :
    s.readPlain? = some (s.passScalar text .plain c ended) := by
  have notFlow : ({ s with blockKey := s.keyBehind } : Scan).inFlow = false := by
    simp [inFlow, idle.flat]
  rw [readPlain?, saveKey?_idle idle]
  simp only [Option.bind_eq_bind, Option.bind_some, notFlow, read]
  rfl

/-! Keys -/

structure IsKey (key : List Char) : Prop where
  given : key ≠ []
  inKey : ∀ c ∈ key, c.isAlphanum = true ∨ c = '_'
  short : key.length ≤ 1024

instance (key : List Char) : Decidable (IsKey key) :=
  decidable_of_iff
    (key ≠ [] ∧ key.all (fun c => c.isAlphanum || c == '_') = true ∧ key.length ≤ 1024)
    ⟨fun ⟨given, inKey, short⟩ => ⟨given, by simpa using inKey, short⟩,
      fun ⟨given, inKey, short⟩ => ⟨given, by simpa using inKey, short⟩⟩

/-- A key either stands in the present block or opens one that is further in. -/
inductive Opens (n : Nat) : Int → List Int → List TokenKind → List Int → Prop where
  | inside (outer : List Int) : Opens n n outer [] outer
  | opened {indent : Int} (outer : List Int) (further : indent < n) :
      Opens n indent outer [.blockMapping] (indent :: outer)

theorem IsKey.apart {key : List Char} {c : Char} (isKey : IsKey key) (member : c ∈ key) :
    IsSolid c ∧ c ∉ indicators ∧ c ≠ '-' ∧ c ≠ '?' ∧ c ≠ ':' ∧ c ≠ '.' := by
  have isKeyChar : (c.isAlphanum || c == '_') = true := by simpa using isKey.inKey c member
  have others : (indicators ++ [' ', '\t', '\n', '\r', '\u0085', '\u2028', '\u2029', '-', '?',
      ':', '.']).all (fun x => !(x.isAlphanum || x == '_')) = true := by decide
  have apart : c ∉ indicators ++ [' ', '\t', '\n', '\r', '\u0085', '\u2028', '\u2029', '-', '?',
      ':', '.'] := fun inside => by simpa [isKeyChar] using List.all_eq_true.mp others c inside
  simp only [List.mem_append, List.mem_cons, List.not_mem_nil, or_false, not_or] at apart
  obtain ⟨noIndicator, space, tab, feed, return_, line, separator, paragraph, rest⟩ := apart
  refine ⟨?_, noIndicator, rest⟩
  simp [IsSolid, isBlank, isBreak, space, tab, feed, return_, line, separator, paragraph]

theorem IsKey.noEdge {key rest : List Char} {m : Mark} (isKey : IsKey key) :
    (⟨m, key ++ rest⟩ : Cursor).atEdge = false := by
  obtain ⟨c, key, rfl⟩ := List.exists_cons_of_ne_nil isKey.given
  obtain ⟨_, _, noHyphen, _, _, noPoint⟩ := isKey.apart List.mem_cons_self
  have noEdge : atDocumentEdge (c :: (key ++ rest)) = false := by
    unfold atDocumentEdge
    split
    · simp_all
    · simp_all
    · rfl
  simp [Cursor.atEdge, noEdge]

theorem dropStale?_fresh {key : PossibleKey} (flat : s.flowKeys = [])
    (isKey : s.blockKey = some key) (fresh : PossibleKey.isStale s.mark key = false) :
    s.dropStale? = some s := by
  simp only [dropStale?, flat, isKey, fresh, List.any_cons, List.any_nil, Option.any_some,
    Bool.false_and, Bool.or_false, Bool.false_eq_true, if_false, List.map_nil]
  rw [← isKey, ← flat]

theorem next?_value {after : List Char} (flat : s.flowKeys = []) (column : s.mark.column ≠ 0)
    (gap : atGap after = true) : s.next? ':' after = s.readValue? := by
  have notFlow : s.inFlow = false := by simp [inFlow, flat]
  have noEdge : s.cursor.atEdge = false := by
    have column : s.cursor.mark.column ≠ 0 := column
    simp [Cursor.atEdge, column]
  simp [next?, noEdge, gap]

def announce (key : PossibleKey) (s : Scan) : Scan :=
  (s.insertAt key.position .key key.mark).openBlock key.mark.column key.position .blockMapping
    key.mark

theorem announce_taken {key : PossibleKey} {token : Token} {before : List Token}
    {opening : List TokenKind} {outer' : List Int} (flat : s.flowKeys = [])
    (tokens : s.tokens = token :: before) (position : key.position = before.length)
    (counted : s.count = before.length + 1)
    (opens : Opens key.mark.column s.indent s.outer opening outer') :
    ((s.announce key).tokens.map Token.kind).reverse =
        (before.map Token.kind).reverse ++ opening ++ [.key, token.kind] ∧
      (s.announce key).count = (s.announce key).tokens.length ∧
      (s.announce key).indent = key.mark.column ∧ (s.announce key).outer = outer' := by
  obtain ⟨cursor, _, _, indent, outer, keyAllowed, blockKey, _⟩ := s
  simp only at flat tokens counted opens
  subst flat tokens counted
  have back : before.length + 1 - before.length = 1 := by omega
  have backTwo : before.length + 1 + 1 - before.length = 2 := by omega
  cases opens with
  | inside outer => simp [announce, insertAt, openBlock, inFlow, position, back, insertBack]
  | opened outer further =>
    simp [announce, insertAt, openBlock, inFlow, position, back, backTwo, insertBack,
      Int.not_le.mpr further]

theorem announce_frame (key : PossibleKey) (s : Scan) :
    (s.announce key).flowKeys = s.flowKeys ∧ (s.announce key).cursor = s.cursor := by
  unfold announce openBlock
  split <;> exact ⟨rfl, rfl⟩

def passColon (key : PossibleKey) (s : Scan) : Scan :=
  { s.announce key with blockKey := none, keyAllowed := false }.take .value 1

theorem readValue?_key {key : PossibleKey} (flat : s.flowKeys = [])
    (known : s.blockKey = some key) : s.readValue? = some (s.passColon key) := by
  have current : s.currentKey = some key := by simp [currentKey, flat, known]
  have flatBehind : (s.announce key).flowKeys = [] := (announce_frame key s).1.trans flat
  have cleared : (s.announce key).setKey none = { s.announce key with blockKey := none } := by
    simp [setKey, flatBehind]
  simp only [readValue?, current]
  exact congrArg (fun t : Scan => some ({ t with keyAllowed := false }.take .value 1)) cleared

theorem passColon_holds {key : PossibleKey} {token : Token} {before : List Token}
    {opening : List TokenKind} {outer' : List Int} (flat : s.flowKeys = [])
    (tokens : s.tokens = token :: before) (position : key.position = before.length)
    (counted : s.count = before.length + 1)
    (opens : Opens key.mark.column s.indent s.outer opening outer') :
    (s.passColon key).Holds
      ((before.map Token.kind).reverse ++ opening ++ [.key, token.kind, .value])
      key.mark.column outer' := by
  obtain ⟨taken, length, block, blocks⟩ := announce_taken flat tokens position counted opens
  refine ⟨⟨(announce_frame key s).1.trans flat, ?_⟩, ?_, ?_, block, blocks⟩
  · intro key given
    simp [passColon, take, push] at given
  · simp [passColon, take, push, taken]
  · simp [passColon, take, push, length]

section Key

variable {key rest : List Char} {n : Nat} {opening : List TokenKind} {outer' : List Int}

def passKey (key rest : List Char) (s : Scan) : Scan :=
  s.passScalar (.ofList key) .plain ⟨s.mark.right key.length, ':' :: rest⟩ false

theorem Line.readKey (line : s.Line next kinds indent outer) (isKey : IsKey key)
    (text : next.text = key ++ ':' :: rest) (gap : atGap rest = true) {c : Char} {after : List Char}
    (ahead : s.rest = c :: after) : s.next? c after = some (s.passKey key rest) := by
  have cursor : s.cursor = ⟨s.mark, key ++ ':' :: rest⟩ := text ▸ line.cursor
  have noEdge : s.cursor.atEdge = false := cursor ▸ isKey.noEdge
  have read : plain? false s.indent s.cursor =
      some (.ofList key, ⟨s.mark.right key.length, ':' :: rest⟩, false) := by
    have hash : key.head? ≠ some '#' := fun first =>
      (isKey.apart (List.mem_of_mem_head? first)).2.1 (by decide)
    rw [cursor]
    refine plain?_key (fun c member => ?_) isKey.given hash gap (cursor ▸ noEdge)
    obtain ⟨solid, _, _, _, noColon, _⟩ := isKey.apart member
    exact ⟨solid, noColon⟩
  have starts : StartsPlain c after := by
    have first : c ∈ key := by
      obtain ⟨d, tail, rfl⟩ := List.exists_cons_of_ne_nil isKey.given
      rw [line.rest, text] at ahead
      obtain ⟨rfl, _⟩ := List.cons.inj ahead
      exact List.mem_cons_self
    obtain ⟨solid, noIndicator, noHyphen, noMark, noColon, _⟩ := isKey.apart first
    exact ⟨solid, noIndicator, fun isAlone => by simp_all⟩
  rw [next?_plain starts line.flat noEdge, readPlain?_idle line.toIdle read]
  rfl

theorem Line.readColon (line : s.Line next kinds indent outer) (isKey : IsKey key)
    (column : next.column = n) (word : AtWord (':' :: rest)) (gap : atGap rest = true)
    (opens : Opens n indent outer opening outer') :
    ∃ t, Reaches (s.passKey key rest) t ∧ t.Behind rest
      (kinds ++ opening ++ [.key, .scalar (.ofList key) .plain, .value]) n outer' := by
  generalize isKeyed : s.passKey key rest = p
  have cursor : p.cursor = ⟨s.mark.right key.length, ':' :: rest⟩ := by rw [← isKeyed]; rfl
  have flat : p.flowKeys = [] := by rw [← isKeyed]; exact line.flat
  have known : p.blockKey = some s.keyHere := by
    rw [← isKeyed]
    simp [passKey, passScalar, keyBehind, line.keyAllowed]
  have fresh : PossibleKey.isStale p.mark s.keyHere = false := by
    have short := isKey.short
    rw [mark, cursor]
    simp [PossibleKey.isStale, keyHere, Mark.right]
    omega
  have positive := List.length_pos_iff.mpr isKey.given
  have columnBehind : p.mark.column = n + key.length := by
    rw [mark, cursor]
    simp [Mark.right, line.column, column]
  have block : p.indent = indent := by rw [← isKeyed]; exact line.block
  have blocks : p.outer = outer := by rw [← isKeyed]; exact line.blocks
  have within : p.indent ≤ p.mark.column := by
    rw [block, columnBehind]
    cases opens with
    | inside outer => omega
    | opened outer further => omega
  have prepared : p.prepare? = some p :=
    prepare?_of (toToken_word (by rw [Scan.rest, cursor]; exact word) _)
      (dropStale?_fresh flat known fresh) within
  have cursorBehind : (p.passColon s.keyHere).cursor = p.cursor.right 1 :=
    congrArg (·.right 1) (announce_frame s.keyHere p).2
  have ahead : (p.passColon s.keyHere).rest = rest := by
    rw [Scan.rest, cursorBehind, cursor]
    rfl
  have next := (next?_value flat (by omega) gap).trans (readValue?_key flat known)
  have here : p.rest = ':' :: rest := by rw [Scan.rest, cursor]
  have atColumn : s.keyHere.mark.column = n := line.column.trans column
  have opensHere : Opens s.keyHere.mark.column p.indent p.outer opening outer' := by
    rwa [atColumn, block, blocks]
  have tokens : p.tokens =
      ⟨.scalar (.ofList key) .plain, s.mark, s.mark.right key.length⟩ :: s.tokens := by
    rw [← isKeyed]
    rfl
  have counted : p.count = s.tokens.length + 1 := by
    rw [← isKeyed, ← line.counted]
    rfl
  have holds := passColon_holds flat tokens line.counted counted opensHere
  rw [line.taken, atColumn] at holds
  refine ⟨_, reaches_of_next prepared here next (by rw [ahead, here]; simp), holds, ahead, ?_⟩
  have behind : (p.passColon s.keyHere).mark.column = p.mark.column + 1 := by
    rw [mark, cursorBehind]
    rfl
  omega

theorem Line.passKey (line : s.Line next kinds indent outer) (isKey : IsKey key)
    (column : next.column = n) (text : next.text = key ++ ':' :: rest) (gap : atGap rest = true)
    (opens : Opens n indent outer opening outer') :
    ∃ t, Reaches s t ∧ t.Behind rest
      (kinds ++ opening ++ [.key, .scalar (.ofList key) .plain, .value]) n outer' := by
  have within : indent ≤ next.column := by
    rw [column]
    cases opens with
    | inside outer => exact Int.le_refl _
    | opened outer further => exact Int.le_of_lt further
  obtain ⟨p, prepared, there⟩ := line.prepared within
  obtain ⟨c, after, ahead⟩ : ∃ c after, p.rest = c :: after :=
    List.exists_cons_of_ne_nil (by rw [there.rest, text]; simp)
  have shorter : (p.passKey key rest).rest.length < s.rest.length := by
    have given := List.length_pos_iff.mpr isKey.given
    rw [line.rest, text, List.length_append]
    show (':' :: rest).length < key.length + (':' :: rest).length
    omega
  have first := reaches_of_next prepared ahead (there.readKey isKey text gap ahead) shorter
  have colon : AtWord (':' :: rest) := ⟨ungapped_cons.mpr (by decide), by simp⟩
  obtain ⟨t, second, behind⟩ := there.readColon isKey column colon gap opens
  exact ⟨t, first.trans second, behind⟩

end Key

end InfraLint.Yaml.Scan
