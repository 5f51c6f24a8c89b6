import InfraLint.Proofs.Yaml.ScanText

/-!
Tokens of a written document. Line by line, the scanner takes the tokens that the layout asks for.
-/
namespace InfraLint.Yaml
namespace Layout
open Scan

/-! What is written and what is scanned of it -/

mutual

def IsSound : Layout → Prop
  | word s => allowsPlain s.toList = true ∧ s.toList ≠ []
  | text _ => True
  | list _ => True
  | record members => members ≠ [] ∧ AreSound members

def AreSound : List (String × Layout) → Prop
  | [] => True
  | (key, value) :: rest => IsKey key.toList ∧ IsSound value ∧ AreSound rest

end

mutual

def kinds : Layout → List TokenKind
  | word s => [.scalar s .plain]
  | text s => [.scalar s (styleOf s)]
  | list [] => [.flowSequence, .flowSequenceEnd]
  | list items => items.flatMap fun item => [.blockEntry, .scalar item (styleOf item)]
  | record members => .blockMapping :: memberKinds members ++ [.blockEnd]

def memberKinds : List (String × Layout) → List TokenKind
  | [] => []
  | (key, value) :: rest =>
    .key :: .scalar key .plain :: .value :: kinds value ++ memberKinds rest

end

/-! From line to line -/

variable {start : Scan → List TokenKind → Prop} {line next : NextLine} {a b : List TokenKind}
  {n : Nat} {indent indent' : Int} {outer outer' : List Int}

/-- Whatever has been taken before, the scanner goes on to a line with these tokens added. -/
def LeadsTo (start : Scan → List TokenKind → Prop) (next : NextLine) (added : List TokenKind)
    (indent : Int) (outer : List Int) : Prop :=
  ∀ s kinds, start s kinds → ∃ t, Reaches s t ∧ t.Line next (kinds ++ added) indent outer

def AtLine (line : NextLine) (indent : Int) (outer : List Int) (s : Scan)
    (kinds : List TokenKind) : Prop := s.Line line kinds indent outer

def AtValue (rest : List Char) (indent : Int) (outer : List Int) (s : Scan)
    (kinds : List TokenKind) : Prop := s.Behind rest kinds indent outer

theorem LeadsTo.refl : LeadsTo (AtLine next indent outer) next [] indent outer := by
  intro s kinds here
  exact ⟨s, Reaches.refl s, (List.append_nil kinds).symm ▸ here⟩

theorem LeadsTo.trans (first : LeadsTo start line a indent outer)
    (second : LeadsTo (AtLine line indent outer) next b indent' outer') :
    LeadsTo start next (a ++ b) indent' outer' := by
  intro s kinds here
  obtain ⟨t, toLine, there⟩ := first s kinds here
  obtain ⟨u, toNext, behind⟩ := second t (kinds ++ a) there
  exact ⟨u, toLine.trans toNext, by simpa using behind⟩

theorem LeadsTo.behindBreak (leads : LeadsTo (AtLine line n outer) next a n outer) :
    LeadsTo (AtValue ('\n' :: line.written) n outer) next a n outer := by
  intro s kinds behind
  obtain ⟨t, toLine, there⟩ := behind.toHolds.newLine behind.ahead
  obtain ⟨u, toNext, behind⟩ := leads t kinds there
  exact ⟨u, toLine.trans toNext, behind⟩

theorem LeadsTo.pop (leads : LeadsTo start next a indent (n :: outer))
    (outside : next.column < indent) : LeadsTo start next (a ++ [.blockEnd]) n outer := by
  intro s kinds here
  obtain ⟨t, toNext, there⟩ := leads s kinds here
  obtain ⟨u, popped, behind⟩ := there.pop outside
  exact ⟨u, toNext.trans popped, by simpa using behind⟩

/-! Lists -/

theorem writeText_space (indent : Nat) (s : String) : ∃ w, writeText indent s = ' ' :: w := by
  unfold writeText
  cases quoting s <;> exact ⟨_, rfl⟩

theorem leads_items (outside : next.column ≤ n) (items : List String) :
    ∃ line : NextLine, line.column ≤ n ∧
      line.written = (items.flatMap fun item =>
        spaces n ++ '-' :: writeText (n + indentStep) item) ++ next.written ∧
      LeadsTo (AtLine line n outer) next
        (items.flatMap fun item => [.blockEntry, .scalar item (styleOf item)]) n outer := by
  induction items with
  | nil => exact ⟨next, outside, rfl, .refl⟩
  | cons item items ih =>
    obtain ⟨line, isOutside, written, leads⟩ := ih
    have word : AtWord ('-' :: (writeText (n + indentStep) item ++ line.written)) :=
      ⟨ungapped_cons.mpr (by decide), by simp⟩
    refine ⟨⟨n, _, word⟩, Nat.le_refl n, ?_, ?_⟩
    · rw [List.flatMap_cons, List.append_assoc, ← written]
      simp [NextLine.written]
    · have first : LeadsTo (AtLine ⟨n, _, word⟩ n outer) line
          [.blockEntry, .scalar item (styleOf item)] n outer := by
        intro s kinds here
        obtain ⟨w, space⟩ := writeText_space (n + indentStep) item
        have text : ('-' :: (writeText (n + indentStep) item ++ line.written)) =
            '-' :: ' ' :: (w ++ line.written) := by rw [space]; rfl
        obtain ⟨t, toEntry, entry⟩ := here.passHyphen rfl text
        rw [← List.cons_append, ← space] at entry
        obtain ⟨u, toLine, there⟩ := entry.passText isOutside
        exact ⟨u, toEntry.trans toLine, by simpa using there⟩
      exact first.trans leads

/-! Records -/

theorem atGap_writeValue (value : Layout) (rest : List Char) :
    atGap (writeValue n value ++ rest) = true := by
  cases value with
  | word s => rfl
  | text s =>
    obtain ⟨w, space⟩ := writeText_space (n + indentStep) s
    rw [writeValue, space]
    rfl
  | list items =>
    cases items with
    | nil => rfl
    | cons item items => rfl
  | record members => rfl

theorem leads_member {key : String} {value : Layout} {opening : List TokenKind}
    (isKey : IsKey key.toList) (opens : Opens n indent outer opening outer')
    (leads : LeadsTo (AtValue (writeValue n value ++ next.written) n outer') next a n outer') :
    ∃ line : NextLine, line.column = n ∧
      line.written =
        spaces n ++ key.toList ++ ':' :: writeValue n value ++ next.written ∧
      LeadsTo (AtLine line indent outer) next
        (opening ++ [.key, .scalar key .plain, .value] ++ a) n outer' := by
  have word : AtWord (key.toList ++ ':' :: (writeValue n value ++ next.written)) := by
    obtain ⟨c, rest, isCons⟩ := List.exists_cons_of_ne_nil isKey.given
    obtain ⟨solid, noIndicator, _⟩ := isKey.apart (isCons ▸ List.mem_cons_self)
    rw [isCons, List.cons_append]
    refine ⟨ungapped_cons.mpr solid, ?_⟩
    rintro hash
    obtain rfl : c = '#' := by simpa using hash
    exact noIndicator (by decide)
  refine ⟨⟨n, _, word⟩, rfl, by simp [NextLine.written], ?_⟩
  intro s kinds here
  obtain ⟨t, toValue, there⟩ := here.passKey isKey rfl rfl (atGap_writeValue value _) opens
  obtain ⟨u, toNext, behind⟩ := leads t _ there
  rw [String.ofList_toList] at behind
  exact ⟨u, toValue.trans toNext, by simpa using behind⟩

mutual

theorem leads_value : ∀ (value : Layout) (n : Nat) (outer : List Int) (next : NextLine),
    IsSound value → next.column ≤ n →
      LeadsTo (AtValue (writeValue n value ++ next.written) n outer) next (kinds value) n outer
  | word s, n, outer, next, sound, outside => by
    intro t tokens behind
    have behind : t.Behind (' ' :: (s.toList ++ '\n' :: next.written)) tokens n outer := by
      simpa [AtValue, writeValue] using behind
    have passed := behind.passPlain sound.1 sound.2 outside
    rwa [String.ofList_toList] at passed
  | text s, n, outer, next, _, outside => fun t tokens behind => Behind.passText behind outside
  | list [], n, outer, next, _, _ => fun t tokens behind => Behind.passEmptyList behind
  | list (item :: items), n, outer, next, _, outside => by
    obtain ⟨line, _, written, leads⟩ : ∃ line : NextLine, line.column ≤ n ∧ _ ∧
        LeadsTo (AtLine line n outer) next _ n outer := leads_items outside (item :: items)
    have behindBreak := leads.behindBreak
    rwa [written] at behindBreak
  | record [], n, outer, next, sound, outside => absurd rfl sound.1
  | record ((key, value) :: members), n, outer, next, sound, outside => by
    obtain ⟨_, isKey, isValue, areMembers⟩ := sound
    obtain ⟨line, isOutside, written, leads⟩ :=
      leads_members members (n + 2) (n :: outer) next areMembers (by omega)
    have leadsValue := leads_value value (n + 2) (n :: outer) line isValue isOutside
    obtain ⟨first, _, isWritten, leadsFirst⟩ :=
      leads_member isKey (.opened outer (by omega)) leadsValue
    -- the next line is outside of the block that the first member has opened
    have behindBreak := ((leadsFirst.trans leads).pop (by omega)).behindBreak
    rw [isWritten, written] at behindBreak
    simpa [writeValue, writeMembers, kinds, memberKinds, indentStep] using behindBreak

theorem leads_members : ∀ (members : List (String × Layout)) (n : Nat) (outer : List Int)
    (next : NextLine), AreSound members → next.column ≤ n →
      ∃ line : NextLine, line.column ≤ n ∧ line.written = writeMembers n members ++ next.written ∧
        LeadsTo (AtLine line n outer) next (memberKinds members) n outer
  | [], n, outer, next, _, outside => ⟨next, outside, rfl, .refl⟩
  | (key, value) :: members, n, outer, next, sound, outside => by
    obtain ⟨isKey, isValue, areMembers⟩ := sound
    obtain ⟨line, isOutside, written, leads⟩ :=
      leads_members members n outer next areMembers outside
    have leadsValue := leads_value value n outer line isValue isOutside
    obtain ⟨first, column, isWritten, leadsFirst⟩ :=
      leads_member isKey (.inside outer) leadsValue
    refine ⟨first, Nat.le_of_eq column, ?_, ?_⟩
    · simp [isWritten, written, writeMembers]
    · simpa [memberKinds] using leadsFirst.trans leads

end

/-! Printable documents -/

theorem code_of_alphanum {c : Char} (alphanum : c.isAlphanum = true) :
    ((65 ≤ c.toNat ∧ c.toNat ≤ 90) ∨ 97 ≤ c.toNat ∧ c.toNat ≤ 122) ∨
      48 ≤ c.toNat ∧ c.toNat ≤ 57 := by
  have ranges : ((decide (c.val ≥ 'A'.val ∧ c.val ≤ 'Z'.val) ||
      decide (c.val ≥ 'a'.val) && decide (c.val ≤ 'z'.val)) ||
        decide (c.val ≥ '0'.val) && decide (c.val ≤ '9'.val)) = true := alphanum
  simpa [UInt32.le_iff_toNat_le] using ranges

theorem printable_key {key : List Char} (isKey : IsKey key) :
    ∀ c ∈ key, isPrintable c = true := by
  intro c member
  rcases isKey.inKey c member with alphanum | rfl
  · have code := code_of_alphanum alphanum
    simp only [isPrintable, Bool.or_eq_true, Bool.and_eq_true, decide_eq_true_eq]
    omega
  · decide

mutual

theorem printable_writeValue : ∀ (value : Layout) (n : Nat), IsSound value →
    ∀ c ∈ writeValue n value, isPrintable c = true
  | word s, n, sound => by
    have printable := sound.1
    simp only [allowsPlain, Bool.and_eq_true, List.all_eq_true] at printable
    simp only [writeValue, List.cons_append, List.forall_mem_cons, List.forall_mem_append]
    exact ⟨by decide, printable.1.1.1.1, by decide, by simp⟩
  | text s, n, _ => printable_writeText (n + indentStep) s
  | list [], n, _ => List.all_eq_true.mp (by decide : " []\n".toList.all isPrintable = true)
  | list (item :: items), n, _ => by
    refine List.forall_mem_cons.mpr ⟨by decide, fun c member => ?_⟩
    obtain ⟨item, _, written⟩ := List.mem_flatMap.mp member
    have inItem : ∀ c ∈ spaces n ++ '-' :: writeText (n + indentStep) item,
        isPrintable c = true := by
      simp only [List.forall_mem_cons, List.forall_mem_append]
      exact ⟨printable_spaces n, by decide, printable_writeText (n + indentStep) item⟩
    exact inItem c written
  | record members, n, sound => by
    exact List.forall_mem_cons.mpr ⟨by decide, printable_writeMembers members _ sound.2⟩

theorem printable_writeMembers : ∀ (members : List (String × Layout)) (n : Nat),
    AreSound members → ∀ c ∈ writeMembers n members, isPrintable c = true
  | [], n, _ => by simp [writeMembers]
  | (key, value) :: members, n, sound => by
    obtain ⟨isKey, isValue, areMembers⟩ := sound
    simp only [writeMembers, List.append_assoc, List.cons_append, List.forall_mem_cons,
      List.forall_mem_append]
    exact ⟨printable_spaces n, printable_key isKey, by decide, printable_writeValue value n isValue,
      printable_writeMembers members n areMembers⟩

end

/-! The document -/

def ending : NextLine := ⟨0, [], ⟨by simp [Ungapped], by simp⟩⟩

theorem finish?_ending {t : Scan} {tokens : List TokenKind}
    (line : t.Line ending tokens (0 : Nat) [-1]) (fuel : Nat) :
    ∃ u, run? (fuel + 1) t = some u ∧
      (u.tokens.map Token.kind).reverse = tokens ++ [.blockEnd] := by
  obtain ⟨p, prepared, there⟩ := line.prepared (Int.le_refl 0)
  rw [run?_succ, prepared]
  have atEnd : p.rest = [] := there.rest
  have column : p.cursor.mark.column = 0 := there.column
  have outermost : p.indent = 0 := there.block
  have closed : p.closeBlocks (-1) = p.popBlock [] (-1) := by
    rw [closeBlocks_pop there.flat there.blocks (by omega)]
    exact closeBlocks_same (Int.le_refl (-1))
  have idle : (p.popBlock [] (-1)).Idle := ⟨there.flat, there.free⟩
  simp only [Option.bind_some, atEnd, finish?, column, if_true, closed]
  refine ⟨_, dropKey?_idle idle, ?_⟩
  simp [popBlock, push, ← there.taken]

/-- The tokens of a written document are those of its layout. -/
theorem tokens?_writeDocument {members : List (String × Layout)} (given : members ≠ [])
    (sound : AreSound members) : ∃ tokens, tokens? (writeDocument members) = some tokens ∧
      tokens.map Token.kind = kinds (record members) := by
  obtain ⟨⟨key, value⟩, members, rfl⟩ := List.exists_cons_of_ne_nil given
  have printable := printable_writeMembers _ 0 sound
  obtain ⟨isKey, isValue, areMembers⟩ := sound
  obtain ⟨line, isOutside, written, leads⟩ :=
    leads_members members 0 [-1] ending areMembers (Nat.le_refl 0)
  have leadsValue := leads_value value 0 [-1] line isValue isOutside
  obtain ⟨first, column, isWritten, leadsFirst⟩ :=
    leads_member isKey (.opened [] (by decide : (-1 : Int) < (0 : Nat))) leadsValue
  have leadsAll := leadsFirst.trans leads
  have text : writeMembers 0 ((key, value) :: members) = first.text := by
    have whole : spaces first.column ++ first.text = writeMembers 0 ((key, value) :: members) := by
      rw [← NextLine.written, isWritten, written]
      simp [writeMembers, NextLine.written, ending, spaces]
    rw [← whole, column]
    rfl
  rw [text] at printable
  have chars : (writeDocument ((key, value) :: members)).toList = first.text := by
    rw [writeDocument, String.toList_ofList, text]
  have allowed : first.text.all isAllowed = true :=
    List.all_eq_true.mpr fun c member => isAllowed_of_printable (printable c member)
  have noMark : first.text.head? ≠ some byteOrderMark := fun mark =>
    absurd (printable _ (List.mem_of_mem_head? mark)) (by decide)
  have line : ({ cursor := ⟨.start, first.text⟩ } : Scan).Line first [] (-1) [] :=
    ⟨⟨⟨rfl, by simp⟩, rfl, rfl, rfl, rfl⟩, rfl, column.symm, rfl⟩
  obtain ⟨t, reaches, there⟩ := leadsAll _ [] line
  obtain ⟨fuel, room, same⟩ := reaches (first.text.length + 1) (Nat.lt_succ_self _)
  obtain ⟨fuel, rfl⟩ : ∃ k, fuel = k + 1 := ⟨fuel - 1, by omega⟩
  obtain ⟨u, read, tokens⟩ := finish?_ending there fuel
  refine ⟨u.tokens.reverse, ?_, ?_⟩
  · simp only [tokens?, chars, allowed, noMark, guard, if_true, if_false]
    have read := same.trans read
    simp [read]
  · rw [List.map_reverse, tokens]
    simp [kinds, memberKinds]

end Layout
end InfraLint.Yaml
