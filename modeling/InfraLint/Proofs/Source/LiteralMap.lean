import InfraLint.Proofs.Source.WrittenProject

/-!
Tag maps of literals: one entry to a line, each key a bare identifier that occurs once, each value
without quotes and braces. Where a word stands in the text of such a map only as a whole key, the
search for the word in the text is the search for the key in the map.
-/
namespace InfraLint.Source
open Text

def Identifier (t : List Char) : Prop := t ≠ [] ∧ ∀ c ∈ t, isWord c = true ∨ c = '-'

def PlainValue (t : List Char) : Prop := ∀ c ∈ t, ¬ IsQuote c ∧ c ≠ '{' ∧ c ≠ '}'

instance (t : List Char) : Decidable (Identifier t) :=
  decidable_of_iff (t ≠ [] ∧ t.all (fun c => isWord c || c == '-') = true)
    (by simp [Identifier, List.all_eq_true])

instance (c : Char) : Decidable (IsQuote c) :=
  inferInstanceAs (Decidable (c = '"' ∨ c = '\''))

instance (t : List Char) : Decidable (PlainValue t) :=
  decidable_of_iff (t.all (fun c => decide (¬ IsQuote c ∧ c ≠ '{' ∧ c ≠ '}')) = true)
    (by simp [PlainValue, List.all_eq_true])

namespace WrittenTags

variable {language : Language}

def map (w : WrittenTags language) : List Char := '{' :: w.inner ++ ['}']

structure Literal (w : WrittenTags language) : Prop where
  ownLine : ∀ e ∈ w.entries, '\n' ∈ e.indent
  bare : ∀ e ∈ w.entries, e.quotedKey = false
  identifier : ∀ e ∈ w.entries, Identifier e.key
  assigned : ∀ e ∈ w.entries, e.sign = language.sign
  plain : ∀ e ∈ w.entries, PlainValue e.value
  distinct : (w.entries.map TagEntry.key).Nodup

/-- Wherever the word stands in the map, the key of an entry begins and ends there. -/
def OnlyAsKey (word : List Char) (w : WrittenTags language) : Prop :=
  ∀ u v, w.map = u ++ (word ++ v) → ∃ earlier e later, w.entries = earlier ++ e :: later ∧
    e.key = word ∧ u = '{' :: (earlier.flatMap TagEntry.text ++ e.lead)

def hasKey (w : WrittenTags language) (key : String) : Bool :=
  w.entries.any (·.key == key.toList)

theorem hasKey_iff {w : WrittenTags language} {key : String} :
    w.hasKey key = true ↔ ∃ e ∈ w.entries, e.key = key.toList := by
  simp [hasKey]

variable {w : WrittenTags language} {word : List Char}

theorem seen_infix (unbraced : ∀ e ∈ w.entries, e.Unbraced) : w.seen <:+: w.map := by
  have whole := cut_unbraced unbraced
  cases language with
  | terraform => exact ⟨[], [], by simp [seen, map, whole]⟩
  | bicep => exact ⟨['{'], ['}'], by simp [seen, map, whole]⟩

theorem map_split {earlier later : List (TagEntry language)} {e : TagEntry language}
    (split : w.entries = earlier ++ e :: later) :
    w.map = '{' :: (earlier.flatMap TagEntry.text ++ (e.text ++
      (later.flatMap TagEntry.text ++ (w.trail ++ ['}'])))) := by
  simp [map, inner, split]

theorem key_of_occurs (only : w.OnlyAsKey word) (occurs : occurs word w.map = true) :
    ∃ e ∈ w.entries, e.key = word := by
  obtain ⟨u, v, split⟩ := occurs_iff.mp occurs
  rw [List.append_assoc] at split
  obtain ⟨earlier, e, later, entries, key, _⟩ := only u v split
  exact ⟨e, by simp [entries], key⟩

theorem mentions_split {e : TagEntry language} (mentions : e.Mentions word) :
    ∃ u v, e.text = u ++ (word ++ v) := by
  rcases mentions with ⟨u, v, split, _⟩ | ⟨u, v, split, _⟩
  · exact ⟨e.lead ++ u, v ++ (e.link ++ (e.value ++ [language.quote])),
      by simp [TagEntry.text, split]⟩
  · exact ⟨e.lead ++ (e.key ++ (e.link ++ u)), v ++ [language.quote],
      by simp [TagEntry.text, split]⟩

theorem key_of_mentions (only : w.OnlyAsKey word) {e : TagEntry language}
    (member : e ∈ w.entries) (mentions : e.Mentions word) : ∃ x ∈ w.entries, x.key = word := by
  obtain ⟨u, v, text⟩ := mentions_split mentions
  obtain ⟨earlier, later, split⟩ := List.append_of_mem member
  refine key_of_occurs only (occurs_iff.mpr
    ⟨'{' :: (earlier.flatMap TagEntry.text ++ u),
      v ++ (later.flatMap TagEntry.text ++ (w.trail ++ ['}'])), ?_⟩)
  simp [map_split split, text]

namespace Literal

theorem unbraced (literal : w.Literal) : ∀ e ∈ w.entries, e.Unbraced := by
  intro e member
  constructor
  · intro inside
    rcases (literal.identifier e member).2 _ inside with letter | hyphen
    · revert letter
      decide
    · revert hyphen
      decide
  · intro inside
    exact (literal.plain e member _ inside).2.2 rfl

theorem unquoted (literal : w.Literal) {e : TagEntry language} (member : e ∈ w.entries) :
    language.quote ∉ e.value :=
  fun inside => (literal.plain e member _ inside).1 (quote_isQuote language)

theorem uninterpolated (literal : w.Literal) {e : TagEntry language} (member : e ∈ w.entries) :
    isInterpolated (.ofList e.value) = false := by
  rw [Bool.eq_false_iff]
  intro marked
  rw [isInterpolated, occursIn_ofList, occurs_iff] at marked
  obtain ⟨u, v, split⟩ := marked
  exact (literal.plain e member '{' (by simp [split])).2.1 rfl

theorem earlier_unique {entries earlier earlier' later later' : List (TagEntry language)}
    {e e' : TagEntry language} (distinct : (entries.map TagEntry.key).Nodup)
    (split : entries = earlier ++ e :: later) (split' : entries = earlier' ++ e' :: later')
    (same : e.key = e'.key) : earlier = earlier' ∧ e = e' := by
  have fresh : ∀ {front back : List (TagEntry language)} {x : TagEntry language},
      entries = front ++ x :: back → ∀ y ∈ front, y.key ≠ x.key := by
    intro front back x split y member isSame
    rw [split, List.map_append, List.map_cons, List.nodup_append] at distinct
    exact distinct.2.2 y.key (List.mem_map_of_mem member) x.key (by simp) isSame
  have parts := split.symm.trans split'
  rcases List.append_eq_append_iff.mp parts with ⟨x, rfl, rest⟩ | ⟨x, rfl, rest⟩
  · cases x with
    | nil =>
      obtain ⟨rfl, _⟩ := List.cons.inj rest
      exact ⟨by simp, rfl⟩
    | cons y x =>
      obtain ⟨rfl, _⟩ := List.cons.inj rest
      exact absurd same (fresh split' e (by simp))
  · cases x with
    | nil =>
      obtain ⟨rfl, _⟩ := List.cons.inj rest
      exact ⟨by simp, rfl⟩
    | cons y x =>
      obtain ⟨rfl, _⟩ := List.cons.inj rest
      exact absurd same.symm (fresh split e' (by simp))

theorem silent_before (literal : w.Literal) (only : w.OnlyAsKey word) (some : word ≠ [])
    {earlier later : List (TagEntry language)} {e : TagEntry language}
    (split : w.entries = earlier ++ e :: later) (key : e.key = word) :
    ∀ x ∈ earlier, ¬ x.Mentions word := by
  intro x member mentions
  obtain ⟨u, v, text⟩ := mentions_split mentions
  obtain ⟨front, back, rfl⟩ := List.append_of_mem member
  have place : w.map = '{' :: (front.flatMap TagEntry.text ++ u) ++ (word ++ (v ++
      (back.flatMap TagEntry.text ++ (e.text ++ (later.flatMap TagEntry.text ++
        (w.trail ++ ['}'])))))) := by
    simp [map_split split, text]
  obtain ⟨earlier', e', later', split', key', start⟩ := only _ _ place
  obtain ⟨rfl, rfl⟩ := earlier_unique literal.distinct split split' (key.trans key'.symm)
  -- the key stands behind all of `x`, but the word inside of it
  have lengths := congrArg List.length start
  have inside := congrArg List.length text
  have positive := List.length_pos_iff.mpr some
  simp only [List.length_cons, List.length_append, List.flatMap_append, List.flatMap_cons]
    at lengths inside
  omega

end Literal

/-- For a word that stands there only as a key, the text says whether it is one. -/
theorem occursIn_seen_iff (literal : w.Literal) {tag : String} (only : w.OnlyAsKey tag.toList) :
    tag.occursIn (.ofList w.seen) = true ↔ ∃ e ∈ w.entries, e.key = tag.toList := by
  obtain ⟨front, back, whole⟩ := seen_infix literal.unbraced
  constructor
  · intro stands
    rw [occursIn_ofList, occurs_iff] at stands
    obtain ⟨u, v, split⟩ := stands
    refine key_of_occurs only (occurs_iff.mpr ⟨front ++ u, v ++ back, ?_⟩)
    simp [← whole, split]
  · rintro ⟨e, member, key⟩
    exact key_in_seen literal.unbraced member key

theorem projectTag_literal (literal : w.Literal) (only : w.OnlyAsKey "Project".toList) :
    ((∀ e ∈ w.entries, e.key ≠ "Project".toList) ∧ projectTag (.ofList w.seen) = .absent) ∨
      ∃ e ∈ w.entries, e.key = "Project".toList ∧
        projectTag (.ofList w.seen) = .literal (.ofList e.value) := by
  by_cases given : ∃ e ∈ w.entries, e.key = "Project".toList
  · obtain ⟨e, member, key⟩ := given
    obtain ⟨earlier, later, split⟩ := List.append_of_mem member
    refine Or.inr ⟨e, member, key, ?_⟩
    have front : ∀ x ∈ earlier, x.Unbraced := fun x inFront =>
      literal.unbraced x (by simp [split, inFront])
    rw [projectTag_entry split key (literal.unquoted member)
      (literal.silent_before only (by decide) split key) front,
      if_neg (literal.unbraced e member).2, quotedTag, literal.uninterpolated member]
    rfl
  · refine Or.inl ⟨fun e member key => given ⟨e, member, key⟩, projectTag_silent ?_⟩
    intro e member mentions
    exact given (key_of_mentions only member mentions)

end WrittenTags
end InfraLint.Source
