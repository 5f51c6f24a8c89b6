import InfraLint.Proofs.Json.Strings
import InfraLint.Proofs.Numeric.Decimal

/-!
JSON texts. A tree holds what a text writes down before anything is made of it: members in the order
in which they are written, under names of which some may come twice, numbers as their digits and
strings as characters and escapes. `Written` relates a tree to its texts, between whose parts white
space is free.
-/
namespace InfraLint.Json
open Reader

/-! Strings -/

/-- A character that stands for itself, a backslash with a letter, or a backslash with `u` and four
digits. -/
inductive Piece where
  | plain (c : Char) (visible : 32 ≤ c.toNat) (noQuote : c ≠ '"') (noEscape : c ≠ '\\')
  | short (letter c : Char) (known : shortEscape? letter = some c)
  | unit (a b c d : Char) (n : Nat) (hex : unit? a b c d = some n)

def Piece.text : Piece → List Char
  | plain c .. => [c]
  | short letter .. => ['\\', letter]
  | unit a b c d .. => ['\\', 'u', a, b, c, d]

def spelled (pieces : List Piece) : List Char := pieces.flatMap Piece.text

def combined? (high low : Nat) : Option Char :=
  if 0xDC00 ≤ low && low ≤ 0xDFFF then
    some (Char.ofNat (0x10000 + (high - 0xD800) * 0x400 + (low - 0xDC00)))
  else none

/-- The characters that the pieces make up. The halves of a character have to stand together. -/
def decoded? : List Piece → Option (List Char)
  | [] => some []
  | .plain c .. :: pieces => (decoded? pieces).map (c :: ·)
  | .short _ c _ :: pieces => (decoded? pieces).map (c :: ·)
  | .unit _ _ _ _ n _ :: pieces =>
    if 0xDC00 ≤ n && n ≤ 0xDFFF then none
    else if 0xD800 ≤ n && n ≤ 0xDBFF then
      match pieces with
      | .unit _ _ _ _ m _ :: pieces => (combined? n m).bind fun c => (decoded? pieces).map (c :: ·)
      | _ => none
    else (decoded? pieces).map (Char.ofNat n :: ·)

def string? (pieces : List Piece) : Option String := (decoded? pieces).map .ofList

/-! Numbers -/

inductive WholeText : List Char → Prop where
  | zero : WholeText ['0']
  | more {c : Char} {ds : List Char} (first : c.isDigit = true) (nonzero : c ≠ '0')
      (digits : Digits ds) : WholeText (c :: ds)

inductive FractionText : List Char → Prop where
  | none : FractionText []
  | given {ds : List Char} (filled : ds ≠ []) (digits : Digits ds) : FractionText ('.' :: ds)

structure NumberText (s : List Char) : Prop where
  parts : ∃ whole fraction exponent, WholeText whole ∧ FractionText fraction ∧
    ExponentText exponent ∧ s = whole ++ (fraction ++ exponent)

/-! Trees -/

inductive Tree where
  | null
  | bool (b : Bool)
  | number (negative : Bool) (text : List Char) (isNumber : NumberText text)
  | string (pieces : List Piece)
  | array (items : List Tree)
  | object (members : List (List Piece × Tree))

structure Item where
  before : List Char
  tree : Tree
  text : List Char
  after : List Char

structure Member where
  before : List Char
  name : List Piece
  gap : List Char
  space : List Char
  tree : Tree
  text : List Char
  after : List Char

def Item.written (i : Item) : List Char := i.before ++ (i.text ++ i.after)

def Member.value (m : Member) : List Char := m.space ++ (m.text ++ m.after)

def Member.written (m : Member) : List Char :=
  m.before ++ '"' :: (spelled m.name ++ '"' :: (m.gap ++ ':' :: m.value))

def Member.pair (m : Member) : List Piece × Tree := (m.name, m.tree)

structure Item.Spaced (i : Item) : Prop where
  before : AllWhite i.before
  after : AllWhite i.after

structure Member.Spaced (m : Member) : Prop where
  before : AllWhite m.before
  gap : AllWhite m.gap
  space : AllWhite m.space
  after : AllWhite m.after

def behindCommas (texts : List (List Char)) : List Char := texts.flatMap (',' :: ·)

def joined : List (List Char) → List Char
  | [] => []
  | text :: texts => text ++ behindCommas texts

inductive Written : Tree → List Char → Prop where
  | null : Written .null "null".toList
  | true : Written (.bool true) "true".toList
  | false : Written (.bool false) "false".toList
  | positive {text : List Char} (isNumber : NumberText text) :
      Written (.number false text isNumber) text
  | negative {text : List Char} (isNumber : NumberText text) :
      Written (.number true text isNumber) ('-' :: text)
  | string (pieces : List Piece) : Written (.string pieces) ('"' :: (spelled pieces ++ ['"']))
  | array {items : List Item} {space : List Char} (white : AllWhite space)
      (spaced : ∀ i ∈ items, i.Spaced) (each : ∀ i ∈ items, Written i.tree i.text) :
      Written (.array (items.map Item.tree))
        ('[' :: (space ++ (joined (items.map Item.written) ++ [']'])))
  | object {members : List Member} {space : List Char} (white : AllWhite space)
      (spaced : ∀ m ∈ members, m.Spaced) (each : ∀ m ∈ members, Written m.tree m.text) :
      Written (.object (members.map Member.pair))
        ('\x7b' :: (space ++ (joined (members.map Member.written) ++ ['}'])))

/-- A whole text that writes down a tree. -/
def Document (t : Tree) (text : String) : Prop :=
  ∃ before s after, AllWhite before ∧ Written t s ∧ AllWhite after ∧
    text.toList = before ++ (s ++ after)

variable {t : Tree} {s : List Char} {x : Char}

/-! How texts begin -/

theorem whole_head {text : List Char} (isNumber : NumberText text) :
    ∃ x rest, text = x :: rest ∧ x.isDigit = true := by
  obtain ⟨whole, fraction, exponent, isWhole, _, _, rfl⟩ := isNumber.parts
  cases isWhole with
  | zero => exact ⟨_, _, rfl, rfl⟩
  | more first => exact ⟨_, _, rfl, first⟩

theorem digit_not_white (digit : x.isDigit = true) : Cursor.isWhite x = false := by
  cases white : Cursor.isWhite x with
  | false => rfl
  | true =>
    simp only [Cursor.isWhite, Bool.or_eq_true, beq_iff_eq] at white
    rcases white with ((rfl | rfl) | rfl) | rfl <;> cases digit

theorem written_head (written : Written t s) :
    ∃ x rest, s = x :: rest ∧ Cursor.isWhite x = false ∧ x ≠ ']' := by
  cases written with
  | null => exact ⟨_, _, rfl, rfl, by decide⟩
  | true => exact ⟨_, _, rfl, rfl, by decide⟩
  | false => exact ⟨_, _, rfl, rfl, by decide⟩
  | positive isNumber =>
    obtain ⟨x, rest, rfl, digit⟩ := whole_head isNumber
    refine ⟨x, rest, rfl, digit_not_white digit, ?_⟩
    rintro rfl
    cases digit
  | negative => exact ⟨_, _, rfl, rfl, by decide⟩
  | string => exact ⟨_, _, rfl, rfl, by decide⟩
  | array => exact ⟨_, _, rfl, rfl, by decide⟩
  | object => exact ⟨_, _, rfl, rfl, by decide⟩

/-! How long texts are -/

theorem length_le_behindCommas {text : List Char} {texts : List (List Char)}
    (member : text ∈ texts) : text.length ≤ (behindCommas texts).length := by
  obtain ⟨before, after, rfl⟩ := List.append_of_mem member
  simp only [behindCommas, List.flatMap_append, List.flatMap_cons, List.length_append,
    List.length_cons]
  omega

theorem length_le_joined {text : List Char} {texts : List (List Char)} (member : text ∈ texts) :
    text.length ≤ (joined texts).length := by
  cases texts with
  | nil => cases member
  | cons first texts =>
    rw [joined, List.length_append]
    rcases List.mem_cons.mp member with rfl | later
    · exact Nat.le_add_right _ _
    · exact Nat.le_add_left_of_le (length_le_behindCommas later)

theorem count_le_behindCommas (texts : List (List Char)) :
    texts.length ≤ (behindCommas texts).length := by
  induction texts with
  | nil => simp
  | cons text texts ih =>
    simp only [behindCommas, List.flatMap_cons, List.length_cons, List.length_append] at ih ⊢
    omega

theorem count_le_joined (texts : List (List Char)) :
    texts.length ≤ (joined texts).length + 1 := by
  cases texts with
  | nil => simp
  | cons text texts =>
    have := count_le_behindCommas texts
    simp only [joined, List.length_cons, List.length_append]
    omega

theorem length_le_spelled (pieces : List Piece) : pieces.length ≤ (spelled pieces).length := by
  induction pieces with
  | nil => simp
  | cons piece pieces ih =>
    have some : 0 < piece.text.length := by cases piece <;> simp [Piece.text]
    simp only [spelled, List.flatMap_cons, List.length_cons, List.length_append] at ih ⊢
    omega

theorem Item.length_le (i : Item) : i.text.length ≤ i.written.length := by
  simp only [written, List.length_append]
  omega

theorem Member.length_le (m : Member) :
    m.text.length ≤ m.written.length ∧ m.name.length ≤ m.written.length := by
  have := length_le_spelled m.name
  simp only [written, value, List.length_append, List.length_cons]
  omega

/-- Items are shorter than their list. -/
theorem Item.shorter {items : List Item} {i : Item} (space : List Char) (member : i ∈ items) :
    i.text.length < ('[' :: (space ++ (joined (items.map Item.written) ++ [']']))).length := by
  have inside := length_le_joined (List.mem_map_of_mem (f := Item.written) member)
  have own := i.length_le
  simp only [List.length_cons, List.length_append]
  omega

theorem Member.shorter {members : List Member} {m : Member} (space : List Char)
    (member : m ∈ members) :
    m.text.length < ('\x7b' :: (space ++ (joined (members.map Member.written) ++ ['}']))).length ∧
      m.name.length <
        ('\x7b' :: (space ++ (joined (members.map Member.written) ++ ['}']))).length := by
  have inside := length_le_joined (List.mem_map_of_mem (f := Member.written) member)
  have own := m.length_le
  simp only [List.length_cons, List.length_append]
  omega

/-! Texts without white space -/

mutual

def Tree.text : Tree → List Char
  | .null => "null".toList
  | .bool true => "true".toList
  | .bool false => "false".toList
  | .number true text _ => '-' :: text
  | .number false text _ => text
  | .string pieces => '"' :: (spelled pieces ++ ['"'])
  | .array items => '[' :: (joined (itemTexts items) ++ [']'])
  | .object members => '\x7b' :: (joined (memberTexts members) ++ ['}'])

def itemTexts : List Tree → List (List Char)
  | [] => []
  | t :: items => t.text :: itemTexts items

def memberTexts : List (List Piece × Tree) → List (List Char)
  | [] => []
  | (name, t) :: members => ('"' :: (spelled name ++ '"' :: ':' :: t.text)) :: memberTexts members

end

def Tree.asItem (t : Tree) : Item := ⟨[], t, t.text, []⟩

def asMember (m : List Piece × Tree) : Member := ⟨[], m.1, [], [], m.2, m.2.text, []⟩

theorem itemTexts_eq (items : List Tree) :
    itemTexts items = (items.map Tree.asItem).map Item.written := by
  induction items with
  | nil => rfl
  | cons t items ih => simp [itemTexts, ih, Tree.asItem, Item.written]

theorem memberTexts_eq (members : List (List Piece × Tree)) :
    memberTexts members = (members.map asMember).map Member.written := by
  induction members with
  | nil => rfl
  | cons m members ih => simp [memberTexts, ih, asMember, Member.written, Member.value]

theorem written_array {items : List Tree} (each : ∀ t ∈ items, Written t t.text) :
    Written (.array items) (Tree.text (.array items)) := by
  have whole : Written (.array ((items.map Tree.asItem).map Item.tree)) _ := .array allWhite_nil
    (List.forall_mem_map.mpr fun _ _ => ⟨allWhite_nil, allWhite_nil⟩)
    (List.forall_mem_map.mpr each)
  simpa [Tree.text, itemTexts_eq, Tree.asItem, Function.comp_def] using whole

theorem written_object {members : List (List Piece × Tree)}
    (each : ∀ m ∈ members, Written m.2 m.2.text) :
    Written (.object members) (Tree.text (.object members)) := by
  have whole : Written (.object ((members.map asMember).map Member.pair)) _ := .object allWhite_nil
    (List.forall_mem_map.mpr fun _ _ => ⟨allWhite_nil, allWhite_nil, allWhite_nil, allWhite_nil⟩)
    (List.forall_mem_map.mpr each)
  simpa [Tree.text, memberTexts_eq, asMember, Member.pair, Function.comp_def] using whole

mutual

theorem written_text (t : Tree) : Written t t.text := by
  cases t with
  | null => exact .null
  | bool b => cases b; exact .false; exact .true
  | number negative text isNumber =>
    cases negative with
    | false => exact .positive isNumber
    | true => exact .negative isNumber
  | string pieces => exact .string pieces
  | array items => exact written_array (written_items items)
  | object members => exact written_object (written_members members)

theorem written_items (items : List Tree) : ∀ t ∈ items, Written t t.text := by
  cases items with
  | nil => nofun
  | cons t items => exact List.forall_mem_cons.mpr ⟨written_text t, written_items items⟩

theorem written_members (members : List (List Piece × Tree)) :
    ∀ m ∈ members, Written m.2 m.2.text := by
  cases members with
  | nil => nofun
  | cons m members => exact List.forall_mem_cons.mpr ⟨written_text m.2, written_members members⟩

end

theorem document_text {t : Tree} {text : String} (same : text.toList = t.text) : Document t text :=
  ⟨[], t.text, [], allWhite_nil, written_text t, allWhite_nil, by simpa using same⟩

def Plain (c : Char) : Prop := 32 ≤ c.toNat ∧ c ≠ '"' ∧ c ≠ '\\'

instance (c : Char) : Decidable (Plain c) := inferInstanceAs (Decidable (_ ∧ _ ∧ _))

def plainPieces (s : String) : List Piece :=
  s.toList.filterMap fun c =>
    if plain : Plain c then some (.plain c plain.1 plain.2.1 plain.2.2) else none

end InfraLint.Json
