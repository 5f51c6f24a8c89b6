import InfraLint.Json.Skip
import InfraLint.Proofs.Json.Numbers

/-!
Values that are passed over. Every text of a value is, however deep its lists and objects nest,
however large its numbers are and whatever its escapes make up.
-/
namespace InfraLint.Json
namespace Reader
open Text

variable {s t rest ds sign exp fraction : List Char} {letter : Char} {fuel : Nat}

/-! Strings -/

theorem reads_skipString (pieces : List Piece) (rest : List Char) (enough : pieces.length < fuel) :
    Reads (skipString fuel) (spelled pieces ++ '"' :: rest) () rest := by
  obtain ⟨fuel, rfl⟩ : ∃ n, fuel = n + 1 := ⟨fuel - 1, by omega⟩
  induction pieces generalizing fuel with
  | nil => exact (reads_peek _).bind (reads_advance _ _)
  | cons piece pieces ih =>
    obtain ⟨fuel, rfl⟩ : ∃ n, fuel = n + 1 := ⟨fuel - 1, by simp at enough; omega⟩
    have behind (x : Char) : Reads (do advance; skipString (fuel + 1))
        (x :: (spelled pieces ++ '"' :: rest)) () rest :=
      (reads_advance x _).bind (ih fuel (Nat.lt_of_succ_lt_succ enough))
    cases piece with
    | plain c visible noQuote noEscape =>
      change Reads _ (c :: (spelled pieces ++ '"' :: rest)) () rest
      refine (reads_peek _).bind ?_
      have noControl : ¬ c.toNat < 32 := by omega
      simpa [noQuote, noEscape, noControl] using behind c
    | short letter c known =>
      change Reads _ ('\\' :: letter :: (spelled pieces ++ '"' :: rest)) () rest
      refine (reads_peek _).bind ((reads_advance _ _).bind ((reads_peek _).bind ?_))
      simpa [shortEscape?_ne_u known, known] using behind letter
    | unit a b c d n hex =>
      refine (reads_peek _).bind ((reads_advance _ _).bind ((reads_peek _).bind ?_))
      refine (reads_advance _ _).bind ((reads_unit hex _).bind ?_)
      exact ih fuel (Nat.lt_of_succ_lt_succ enough)

/-! Numbers -/

theorem reads_skipExponent (isSign : Sign sign) (filled : ds ≠ []) (digits : Digits ds)
    (stops : Stops rest) : Reads skipExponent (letter :: (sign ++ (ds ++ rest))) () rest := by
  obtain ⟨d, ds, rfl⟩ := List.exists_cons_of_ne_nil filled
  have unsigned := digit_not_sign (digits d List.mem_cons_self)
  unfold skipExponent
  extract_lets behind
  have taken : Reads (behind ()) (d :: ds ++ rest) () rest :=
    (reads_peekDigits digits stops.noDigit).bind ((reads_peek _).bind (reads_take _ rest))
  refine (reads_advance _ _).bind ((reads_peek _).bind ?_)
  cases isSign with
  | none =>
    split
    · rename_i same
      exact absurd (Option.some.inj same) unsigned.2
    · rename_i same
      exact absurd (Option.some.inj same) unsigned.1
    · exact taken
  | plus => exact (reads_advance _ _).bind taken
  | minus => exact (reads_advance _ _).bind taken

theorem reads_skipEnding {next : Option Char → Reader Unit} (text : ExponentText exp)
    (starts : ∀ letter, letter = 'e' ∨ letter = 'E' → next (some letter) = skipExponent)
    (ends : ∀ x, EndsBefore x → next x = pure ()) (stops : Stops rest) :
    Reads (do next (← peek)) (exp ++ rest) () rest := by
  refine (reads_peek _).bind ?_
  cases text with
  | none =>
    rw [List.nil_append, ends _ fun x head => (stops x head).2]
    exact reads_pure _ _
  | @given letter sign ds isLetter isSign filled digits =>
    have same : next ((letter :: (sign ++ ds)) ++ rest).head? = skipExponent :=
      starts letter isLetter
    rw [same, List.cons_append, List.append_assoc]
    exact reads_skipExponent isSign filled digits stops

theorem reads_skipDigits (digits : Digits ds)
    (stop : ∀ x, rest.head? = some x → x.isDigit = false) :
    Reads skipDigits (ds ++ rest) ds.length rest :=
  (reads_peekDigits digits stop).bind ((reads_take _ _).bind (reads_pure _ _))

theorem reads_skipNumber {text : List Char} (isNumber : NumberText text) (stops : Stops rest) :
    Reads skipNumber (text ++ rest) () rest := by
  obtain ⟨whole, fraction, exp, isWhole, isFraction, isExponent, rfl⟩ := isNumber.parts
  unfold skipNumber
  extract_lets last behind
  have ending : Reads (behind ()) (fraction ++ (exp ++ rest)) () rest := by
    cases isFraction with
    | none =>
      refine reads_skipEnding isExponent ?_ ?_ stops
      · rintro letter (rfl | rfl) <;> rfl
      · intro x before
        split
        · exact absurd rfl (before '.' rfl).1
        · exact absurd rfl (before 'e' rfl).2.1
        · exact absurd rfl (before 'E' rfl).2.2
        · rfl
    | @given ds filled digits =>
      have some : ds.length ≠ 0 := mt List.length_eq_zero_iff.mp filled
      have stop := fun x head => (stops_exponent isExponent stops x head).1
      refine (reads_peek _).bind ((reads_advance _ _).bind ((reads_skipDigits digits stop).bind ?_))
      rw [if_neg some]
      refine reads_skipEnding isExponent ?_ ?_ stops
      · rintro letter (rfl | rfl) <;> rfl
      · intro x before
        split
        · exact absurd rfl (before 'e' rfl).2.1
        · exact absurd rfl (before 'E' rfl).2.2
        · rfl
  have stop := stops_fraction isFraction isExponent stops
  rw [List.append_assoc, List.append_assoc]
  cases isWhole with
  | zero =>
    refine (reads_peekDigits (by simp [Digits]) stop).bind ((reads_peek _).bind ?_)
    exact (reads_take ['0'] _).bind ending
  | @more c ds first nonzero digits =>
    have all : Digits (c :: ds) := List.forall_mem_cons.mpr ⟨first, digits⟩
    refine (reads_peekDigits all stop).bind ((reads_peek _).bind ?_)
    split
    · contradiction
    · contradiction
    · rename_i same
      exact absurd (List.cons.inj same).1 nonzero
    · exact (reads_take (c :: ds) _).bind ending

/-! Values -/

theorem stops_nil : Stops [] := nofun

theorem stops_cons {x : Char} (digit : x.isDigit = false)
    (other : x ≠ '.' ∧ x ≠ 'e' ∧ x ≠ 'E') (s : List Char) : Stops (x :: s) := by
  intro y head
  obtain rfl := Option.some.inj head
  exact ⟨digit, other⟩

theorem stops_white {w : List Char} (white : AllWhite w) (stops : Stops s) : Stops (w ++ s) := by
  cases w with
  | nil => exact stops
  | cons x w =>
    have isWhite := white x List.mem_cons_self
    simp only [Cursor.isWhite, Bool.or_eq_true, beq_iff_eq] at isWhite
    rcases isWhite with ((rfl | rfl) | rfl) | rfl <;>
      exact stops_cons (by decide) (by decide) _

def closing (fuel left : Nat) (comma : Bool) (opened : List Char) : Reader Unit := do
  let opened ← skipToNext fuel comma opened
  if !opened.isEmpty then skipValues fuel left opened

/-- The text is passed over as one value or more, inside any open brackets. -/
def Skips (fuel : Nat) (text : List Char) : Prop :=
  ∃ n ≤ text.length, ∀ left opened w rest last, AllWhite w → Stops rest →
    Reads (closing fuel left true opened) rest () last →
      Reads (skipValues fuel (left + n) opened) (w ++ (text ++ rest)) () last

theorem skips_of_skipOne {text : List Char} (some : 0 < text.length)
    (one : ∀ opened w rest, AllWhite w → Stops rest →
      Reads (skipOne fuel opened) (w ++ (text ++ rest)) (true, opened) rest) : Skips fuel text :=
  ⟨1, some, fun _ opened w rest _ white stops behind => (one opened w rest white stops).bind behind⟩

theorem skips_null : Skips fuel "null".toList :=
  skips_of_skipOne (by decide) fun opened _ rest white _ =>
    (reads_peekPastWhite white (unwhite_cons.mpr rfl)).bind
      ((reads_advance _ _).bind ((reads_word "ull".toList rest).bind (reads_pure _ _)))

theorem skips_true : Skips fuel "true".toList :=
  skips_of_skipOne (by decide) fun opened _ rest white _ =>
    (reads_peekPastWhite white (unwhite_cons.mpr rfl)).bind
      ((reads_advance _ _).bind ((reads_word "rue".toList rest).bind (reads_pure _ _)))

theorem skips_false : Skips fuel "false".toList :=
  skips_of_skipOne (by decide) fun opened _ rest white _ =>
    (reads_peekPastWhite white (unwhite_cons.mpr rfl)).bind
      ((reads_advance _ _).bind ((reads_word "alse".toList rest).bind (reads_pure _ _)))

theorem skips_string {pieces : List Piece} (enough : pieces.length < fuel) :
    Skips fuel ('"' :: (spelled pieces ++ ['"'])) := by
  refine skips_of_skipOne (by simp) fun opened w rest white _ => ?_
  rw [List.cons_append, List.append_assoc]
  exact (reads_peekPastWhite white (unwhite_cons.mpr rfl)).bind
    ((reads_advance _ _).bind ((reads_skipString pieces rest enough).bind (reads_pure _ _)))

theorem skips_negative {text : List Char} (isNumber : NumberText text) :
    Skips fuel ('-' :: text) :=
  skips_of_skipOne (by simp) fun opened _ rest white stops =>
    (reads_peekPastWhite white (unwhite_cons.mpr rfl)).bind
      ((reads_advance _ _).bind ((reads_skipNumber isNumber stops).bind (reads_pure _ _)))

theorem skips_positive {text : List Char} (isNumber : NumberText text) : Skips fuel text := by
  obtain ⟨x, tail, rfl, digit⟩ := whole_head isNumber
  refine skips_of_skipOne (by simp) fun opened w rest white stops => ?_
  refine (reads_peekPastWhite white (unwhite_cons.mpr (digit_not_white digit))).bind ?_
  have taken : Reads (do skipNumber; return (true, opened)) (x :: (tail ++ rest)) (true, opened)
      rest := (reads_skipNumber isNumber stops).bind (reads_pure _ _)
  rw [List.head?_cons]
  dsimp only
  split
  · rename_i bracket
    simp only [Bool.or_eq_true, decide_eq_true_eq] at bracket
    rcases bracket with rfl | rfl <;> cases digit
  · split
    · cases digit
    · cases digit
    · cases digit
    · cases digit
    · cases digit
    · exact taken

/-! Lists and objects -/

def Pair (bracket ending : Char) : Prop :=
  bracket = '[' ∧ ending = ']' ∨ bracket = '\x7b' ∧ ending = '}'

structure Entry where
  before : List Char
  lead : List Char
  text : List Char
  after : List Char

def Entry.written (e : Entry) : List Char := e.before ++ (e.lead ++ (e.text ++ e.after))

/-- The text up to the value is passed over, but for white space in front of the value. -/
structure Entry.Fits (fuel : Nat) (bracket ending : Char) (e : Entry) : Prop where
  before : AllWhite e.before
  after : AllWhite e.after
  head : ∃ x s, e.lead ++ e.text = x :: s ∧ Cursor.isWhite x = false ∧ x ≠ ending
  lead : ∀ w s, AllWhite w → ∃ w', AllWhite w' ∧
    Reads (skipKey fuel bracket) (w ++ (e.lead ++ s)) () (w' ++ s)
  value : Skips fuel e.text

variable {bracket ending : Char} {es : List Entry} {e : Entry} {outer w last : List Char}
  {left : Nat}

theorem closing_end (pair : Pair bracket ending) (comma : Bool) (white : AllWhite w)
    (behind : Reads (closing fuel left true outer) rest () last) :
    Reads (closing fuel left comma (bracket :: outer)) (w ++ ending :: rest) () last := by
  have unwhite : Cursor.isWhite ending = false := by rcases pair with ⟨_, rfl⟩ | ⟨_, rfl⟩ <;> rfl
  have passed (place : Place) : ∃ place', skipToNext fuel comma (bracket :: outer)
      ⟨place, w ++ ending :: rest⟩ = skipToNext fuel true outer ⟨place', rest⟩ := by
    obtain ⟨middle, peeked⟩ :=
      reads_peekPastWhite (s := ending :: rest) white (unwhite_cons.mpr unwhite) place
    refine ⟨middle.into ending ending.utf8Size, ?_⟩
    rw [skipToNext, bind_of_ok peeked]
    rcases pair with ⟨rfl, rfl⟩ | ⟨rfl, rfl⟩
    · simp [bind, StateT.bind, advance, Cursor.advance, Except.bind]
    · simp [bind, StateT.bind, advance, Cursor.advance, Except.bind]
  intro place
  obtain ⟨place', same⟩ := passed place
  obtain ⟨stop, taken⟩ := behind place'
  refine ⟨stop, ?_⟩
  rw [← taken]
  simp only [closing, bind, StateT.bind, same]

theorem closing_comma (outer : List Char) (white : AllWhite w)
    (key : Reads (skipKey fuel bracket) s () t)
    (behind : Reads (skipValues fuel left (bracket :: outer)) t () last) :
    Reads (closing fuel left true (bracket :: outer)) (w ++ ',' :: s) () last := by
  have next : Reads (skipToNext fuel true (bracket :: outer)) (w ++ ',' :: s) (bracket :: outer)
      t := by
    refine (reads_peekPastWhite white (unwhite_cons.mpr rfl)).bind ?_
    have step : Reads (do advance; skipKey fuel bracket; return bracket :: outer) (',' :: s)
        (bracket :: outer) t := (reads_advance _ _).bind (key.bind (reads_pure _ _))
    simpa using step
  exact next.bind behind

theorem closing_first {x : Char} (pair : Pair bracket ending) (white : AllWhite w)
    (unwhite : Cursor.isWhite x = false) (more : x ≠ ending)
    (key : Reads (skipKey fuel bracket) (x :: s) () t)
    (behind : Reads (skipValues fuel left (bracket :: outer)) t () last) :
    Reads (closing fuel left false (bracket :: outer)) (w ++ x :: s) () last := by
  have next : Reads (skipToNext fuel false (bracket :: outer)) (w ++ x :: s) (bracket :: outer)
      t := by
    refine (reads_peekPastWhite white (unwhite_cons.mpr unwhite)).bind ?_
    have step : Reads (do skipKey fuel bracket; return bracket :: outer) (x :: s)
        (bracket :: outer) t := key.bind (reads_pure _ _)
    rcases pair with ⟨rfl, rfl⟩ | ⟨rfl, rfl⟩
    · simpa [more] using step
    · simpa [more] using step
  exact next.bind behind

theorem stops_behind (pair : Pair bracket ending) (white : AllWhite w) (texts : List (List Char))
    (rest : List Char) : Stops (w ++ (behindCommas texts ++ ending :: rest)) := by
  apply stops_white white
  cases texts with
  | nil =>
    rcases pair with ⟨_, rfl⟩ | ⟨_, rfl⟩
    · exact stops_cons (by decide) (by decide) _
    · exact stops_cons (by decide) (by decide) _
  | cons text texts => exact stops_cons (by decide) (by decide) _

theorem reads_skipValues {comma : Bool} {opened opened' : List Char}
    (one : Reads (skipOne fuel opened) s (comma, opened') t)
    (behind : Reads (closing fuel left comma opened') t () last) :
    Reads (skipValues fuel (left + 1) opened) s () last :=
  one.bind behind

theorem closing_entries (pair : Pair bracket ending) (fits : ∀ e ∈ es, e.Fits fuel bracket ending) :
    ∃ n ≤ (behindCommas (es.map Entry.written)).length, ∀ left outer w rest last, AllWhite w →
      Reads (closing fuel left true outer) rest () last →
        Reads (closing fuel (left + n) true (bracket :: outer))
          (w ++ (behindCommas (es.map Entry.written) ++ ending :: rest)) () last := by
  induction es with
  | nil =>
    refine ⟨0, Nat.le_refl 0, fun left outer w rest last white behind => ?_⟩
    exact closing_end pair true white behind
  | cons e es ih =>
    obtain ⟨fit, fits⟩ := List.forall_mem_cons.mp fits
    obtain ⟨m, small, skips⟩ := fit.value
    obtain ⟨n, few, tail⟩ := ih fits
    refine ⟨n + m, ?_, ?_⟩
    · simp only [behindCommas, List.map_cons, List.flatMap_cons, List.length_append,
        List.length_cons, Entry.written] at few ⊢
      omega
    · intro left outer w rest last white behind
      have others := tail left outer e.after rest last fit.after behind
      obtain ⟨w', white', key⟩ := fit.lead e.before
        (e.text ++ (e.after ++ (behindCommas (es.map Entry.written) ++ ending :: rest))) fit.before
      have stops := stops_behind pair fit.after (es.map Entry.written) rest
      have here := skips (left + n) (bracket :: outer) w' _ last white' stops others
      have whole := closing_comma outer white key here
      rw [Nat.add_assoc] at whole
      simpa only [behindCommas, List.map_cons, List.flatMap_cons, Entry.written, List.cons_append,
        List.append_assoc] using whole

theorem reads_skipOne_bracket (pair : Pair bracket ending) (white : AllWhite w)
    (outer rest : List Char) :
    Reads (skipOne fuel outer) (w ++ bracket :: rest) (false, bracket :: outer) rest := by
  have step : Reads (do advance; return (false, bracket :: outer)) (bracket :: rest)
      (false, bracket :: outer) rest := (reads_advance _ _).bind (reads_pure _ _)
  rcases pair with ⟨rfl, rfl⟩ | ⟨rfl, rfl⟩
  · exact (reads_peekPastWhite white (unwhite_cons.mpr rfl)).bind (by simpa using step)
  · exact (reads_peekPastWhite white (unwhite_cons.mpr rfl)).bind (by simpa using step)

theorem skips_entries (pair : Pair bracket ending) (fits : ∀ e ∈ es, e.Fits fuel bracket ending)
    {space : List Char} (white : AllWhite space) :
    Skips fuel (bracket :: (space ++ (joined (es.map Entry.written) ++ [ending]))) := by
  cases es with
  | nil =>
    refine ⟨1, by simp, fun left outer w rest last white' stops behind => ?_⟩
    have whole := reads_skipValues (reads_skipOne_bracket pair white' outer _)
      (closing_end pair false white behind)
    simpa [joined] using whole
  | cons e es =>
    obtain ⟨fit, fits⟩ := List.forall_mem_cons.mp fits
    obtain ⟨m, small, skips⟩ := fit.value
    obtain ⟨n, few, tail⟩ := closing_entries pair fits
    obtain ⟨x, front, head, unwhite, more⟩ := fit.head
    refine ⟨n + m + 1, ?_, ?_⟩
    · simp only [joined, List.map_cons, List.length_append, List.length_cons, Entry.written]
      omega
    · intro left outer w rest last white' stops behind
      have others := tail left outer e.after rest last fit.after behind
      have stops' := stops_behind pair fit.after (es.map Entry.written) rest
      generalize behindText : e.after ++ (behindCommas (es.map Entry.written) ++ ending :: rest) =
        behindValue at others stops'
      obtain ⟨w', white'', key⟩ := fit.lead [] (e.text ++ behindValue) allWhite_nil
      have here := skips (left + n) (bracket :: outer) w' _ last white'' stops' others
      have inner : e.lead ++ (e.text ++ behindValue) = x :: (front ++ behindValue) := by
        rw [← List.append_assoc, head, List.cons_append]
      rw [List.nil_append, inner] at key
      have first := closing_first pair (allWhite_append white fit.before) unwhite more key here
      have whole := reads_skipValues (reads_skipOne_bracket pair white' outer _) first
      rw [← inner, ← behindText, Nat.add_assoc left, Nat.add_assoc left] at whole
      simpa only [joined, List.map_cons, Entry.written, List.cons_append, List.append_assoc,
        List.nil_append] using whole

end Reader

/-! The texts of trees -/

open Reader

variable {s rest w : List Char} {fuel : Nat}

def Item.entry (i : Item) : Entry := ⟨i.before, [], i.text, i.after⟩

def Member.entry (m : Member) : Entry where
  before := m.before
  lead := '"' :: (spelled m.name ++ '"' :: (m.gap ++ ':' :: m.space))
  text := m.text
  after := m.after

theorem Member.written_entry (m : Member) : m.entry.written = m.written := by
  simp [entry, Entry.written, written, value]

theorem Item.fits {i : Item} (spaced : i.Spaced) (isWritten : Written i.tree i.text)
    (value : Skips fuel i.text) : i.entry.Fits fuel '[' ']' where
  before := spaced.before
  after := spaced.after
  head := written_head isWritten
  lead w _ white := ⟨w, white, reads_pure _ _⟩
  value := value

theorem reads_skipKey {gap : List Char} {name : List Piece} (white : AllWhite w)
    (enough : name.length < fuel) (white' : AllWhite gap) (s : List Char) :
    Reads (skipKey fuel '\x7b') (w ++ '"' :: (spelled name ++ '"' :: (gap ++ ':' :: s))) () s :=
  (reads_peekPastWhite white (unwhite_cons.mpr rfl)).bind
    ((reads_advance _ _).bind ((reads_skipString name _ enough).bind (reads_colon white' s)))

theorem Member.fits {m : Member} (spaced : m.Spaced) (enough : m.name.length < fuel)
    (value : Skips fuel m.text) : m.entry.Fits fuel '\x7b' '}' where
  before := spaced.before
  after := spaced.after
  head := ⟨_, _, rfl, rfl, by decide⟩
  lead w s white := by
    refine ⟨m.space, spaced.space, ?_⟩
    simpa [entry] using reads_skipKey white enough spaced.gap (m.space ++ s)
  value := value

/- By induction on the tree: what is inside of a list or an object is shorter than its text. -/
theorem skips_written {t : Tree} (written : Written t s) (enough : s.length < fuel) :
    Skips fuel s := by
  induction written with
  | null => exact skips_null
  | true => exact skips_true
  | false => exact skips_false
  | positive isNumber => exact skips_positive isNumber
  | negative isNumber => exact skips_negative isNumber
  | string pieces =>
    have := length_le_spelled pieces
    simp only [List.length_cons, List.length_append] at enough
    exact skips_string (by omega)
  | @array items space white spaced each ih =>
    have fits : ∀ e ∈ items.map Item.entry, e.Fits fuel '[' ']' := by
      rintro _ member
      obtain ⟨i, inside, rfl⟩ := List.mem_map.mp member
      exact Item.fits (spaced i inside) (each i inside)
        (ih i inside (Nat.lt_trans (Item.shorter space inside) enough))
    have whole := skips_entries (.inl ⟨rfl, rfl⟩) fits white
    rwa [List.map_map] at whole
  | @object members space white spaced each ih =>
    have fits : ∀ e ∈ members.map Member.entry, e.Fits fuel '\x7b' '}' := by
      rintro _ member
      obtain ⟨m, inside, rfl⟩ := List.mem_map.mp member
      have shorter := Member.shorter space inside
      exact Member.fits (spaced m inside) (Nat.lt_trans shorter.2 enough)
        (ih m inside (Nat.lt_trans shorter.1 enough))
    have whole := skips_entries (.inr ⟨rfl, rfl⟩) fits white
    have texts : Entry.written ∘ Member.entry = Member.written := funext Member.written_entry
    rwa [List.map_map, texts] at whole

/-- A value is passed over, whatever follows it. -/
theorem reads_skipValue {t : Tree} (written : Written t s) (enough : s.length < fuel)
    (white : AllWhite w) (stops : Stops rest) :
    Reads (skipValue fuel) (w ++ (s ++ rest)) () rest := by
  obtain ⟨n, few, skips⟩ := skips_written written enough
  have whole := skips (fuel - n) [] w rest rest white stops (reads_pure () rest)
  rwa [Nat.sub_add_cancel (by omega)] at whole

end InfraLint.Json
