import InfraLint.Proofs.Source.WrittenTags

/-!
What a written tag map says about its project. The first entry with the key `Project` decides,
when no entry before it has that word in it and no closing brace stands in front of its end.
-/
namespace InfraLint.Source
open Text

variable {language : Language}

/-- What stands around keys and values. -/
def Between (c : Char) : Prop := (isBlank c = true ∨ c = ',') ∨ IsQuote c ∨ IsSign c

theorem between_not_word {c : Char} (between : Between c) : isWord c = false := by
  rcases between with (blank | rfl) | quote | sign
  · exact blank_not_word blank
  · decide
  · exact quote_not_word quote
  · exact sign_not_word sign

theorem between_not_brace {c : Char} (between : Between c) : c ≠ '}' := by
  intro same
  subst same
  revert between
  simp [Between, IsQuote, IsSign]
  decide

namespace TagEntry

theorem mark_between (e : TagEntry language) : ∀ c ∈ e.mark, Between c := by
  intro c member
  unfold mark at member
  split at member
  · obtain rfl := List.mem_singleton.mp member
    exact Or.inr (Or.inl (quote_isQuote language))
  · simp at member

theorem lead_between (e : TagEntry language) : ∀ c ∈ e.lead, Between c := by
  intro c member
  rcases List.mem_append.mp member with spacing | mark
  · exact Or.inl (e.indent_spacing c spacing)
  · exact mark_between e c mark

theorem link_between (e : TagEntry language) : ∀ c ∈ e.link, Between c := by
  intro c member
  simp only [link, List.mem_append, List.mem_cons, List.not_mem_nil, or_false] at member
  rcases member with mark | gap | rfl | space | rfl
  · exact mark_between e c mark
  · exact Or.inl (Or.inl (e.gap_blank c gap))
  · exact Or.inr (Or.inr e.isSign)
  · exact Or.inl (Or.inl (e.space_blank c space))
  · exact Or.inr (Or.inl (quote_isQuote language))

theorem lead_apart (e : TagEntry language) : ∀ c ∈ e.lead, isWord c = false :=
  fun c member => between_not_word (lead_between e c member)

theorem link_apart (e : TagEntry language) : ∀ c ∈ e.link, isWord c = false :=
  fun c member => between_not_word (link_between e c member)

theorem lead_unbraced (e : TagEntry language) : '}' ∉ e.lead :=
  fun member => between_not_brace (lead_between e _ member) rfl

theorem link_unbraced (e : TagEntry language) : '}' ∉ e.link :=
  fun member => between_not_brace (link_between e _ member) rfl

theorem text_unbraced_iff {e : TagEntry language} : '}' ∉ e.text ↔ e.Unbraced := by
  have quote : '}' ≠ language.quote := by
    cases language <;> decide
  simp [text, lead_unbraced, link_unbraced, quote, Unbraced]

theorem texts_unbraced_iff {entries : List (TagEntry language)} :
    '}' ∉ entries.flatMap text ↔ ∀ e ∈ entries, e.Unbraced := by
  simp only [List.mem_flatMap, not_exists, not_and, text_unbraced_iff]

theorem text_ends (e : TagEntry language) : EndsApart e.text := by
  simp [text, EndsApart, quote_not_word (quote_isQuote language)]

theorem link_ne_nil (e : TagEntry language) : e.link ≠ [] := by
  simp [link]

theorem stands_text {w s : List Char} (word : Word w) {e : TagEntry language}
    (h : Stands w (e.text ++ s)) : e.Mentions w ∨ Stands w s := by
  simp only [text, List.append_assoc] at h
  rcases stands_apart word e.link_ne_nil e.link_apart (stands_append word e.lead_apart h) with
    key | behind
  · exact Or.inl (Or.inl key)
  · rcases stands_split word (quote_not_word (quote_isQuote language)) behind with value | rest
    · exact Or.inl (Or.inr value)
    · exact Or.inr rest

theorem stands_texts {w s : List Char} (word : Word w) {entries : List (TagEntry language)}
    (h : Stands w (entries.flatMap text ++ s)) : (∃ e ∈ entries, e.Mentions w) ∨ Stands w s := by
  induction entries with
  | nil => exact Or.inr h
  | cons e entries ih =>
    rw [List.flatMap_cons, List.append_assoc] at h
    rcases stands_text word h with here | behind
    · exact Or.inl ⟨e, List.mem_cons_self, here⟩
    · rcases ih behind with ⟨x, member, mentions⟩ | rest
      · exact Or.inl ⟨x, List.mem_cons_of_mem e member, mentions⟩
      · exact Or.inr rest

theorem texts_end (entries : List (TagEntry language)) : EndsApart (entries.flatMap text) := by
  induction entries with
  | nil => rfl
  | cons e entries ih => exact endsApart_append e.text_ends ih

end TagEntry

theorem stands_takeWhile_ne {q : Char} {w s : List Char} (apart : isWord q = false)
    (h : Stands w (s.takeWhile (· != q))) : Stands w s := by
  by_cases inside : q ∈ s
  · obtain ⟨u, v, rfl, fresh⟩ := split_at_first inside
    rw [takeWhile_ne_append fresh] at h
    exact stands_left apart h
  · rwa [takeWhile_ne_of_not_mem inside] at h

namespace WrittenTags

variable {w : WrittenTags language} {earlier later : List (TagEntry language)}
  {e : TagEntry language}

/-- The seen text is the cut one between braces, where the language counts them in. -/
theorem seen_eq (w : WrittenTags language) :
    ∃ fore aft, w.seen = fore ++ (w.cut ++ aft) ∧ (∀ c ∈ fore, isWord c = false) ∧
      (aft = [] ∨ aft = ['}']) := by
  cases language with
  | terraform => exact ⟨['{'], ['}'], rfl, List.forall_mem_singleton.mpr (by decide), Or.inr rfl⟩
  | bicep => exact ⟨[], [], by simp [seen], by simp, Or.inl rfl⟩

theorem stands_seen {word : List Char} (letters : Word word) (h : Stands word w.seen) :
    Stands word w.cut := by
  obtain ⟨fore, aft, split, apart, closing⟩ := w.seen_eq
  rw [split] at h
  have behind := stands_append letters apart h
  rcases closing with rfl | rfl
  · rwa [List.append_nil] at behind
  · rcases stands_split letters (by decide) behind with left | right
    · exact left
    · exact absurd right (not_stands_nil letters)

/-- A map in which no entry has the word in it says nothing about the project. -/
theorem projectTag_silent (silent : ∀ e ∈ w.entries, ¬ e.Mentions "Project".toList) :
    projectTag (.ofList w.seen) = .absent := by
  apply projectTag_absent
  intro stands
  have inner := stands_takeWhile_ne (by decide) (stands_seen project_word stands)
  rcases TagEntry.stands_texts project_word inner with ⟨e, member, mentions⟩ | trail
  · exact silent e member mentions
  · have apart : ∀ c ∈ w.trail, isWord c = false :=
      fun c member => between_not_word (Or.inl (w.trail_spacing c member))
    exact not_stands_of_apart project_word apart trail

/-- A brace in the entries before the one with the project hides it. -/
theorem projectTag_hidden (split : w.entries = earlier ++ later)
    (silent : ∀ e ∈ earlier, ¬ e.Mentions "Project".toList)
    (braced : ¬∀ e ∈ earlier, e.Unbraced) :
    projectTag (.ofList w.seen) = .absent := by
  apply projectTag_absent
  intro stands
  have inner : w.inner = earlier.flatMap TagEntry.text ++
      (later.flatMap TagEntry.text ++ w.trail) := by
    simp only [WrittenTags.inner, split, List.flatMap_append, List.append_assoc]
  rw [← TagEntry.texts_unbraced_iff, Decidable.not_not] at braced
  have cut := stands_seen project_word stands
  rw [WrittenTags.cut, inner, takeWhile_ne_append_of_mem braced] at cut
  have texts := stands_takeWhile_ne (by decide) cut
  rw [← List.append_nil (earlier.flatMap TagEntry.text)] at texts
  rcases TagEntry.stands_texts project_word texts with ⟨e, member, mentions⟩ | nothing
  · exact silent e member mentions
  · exact not_stands_nil project_word nothing

theorem valueReads_cut {value rest aft : List Char} (closed : language.quote ∉ value)
    (closing : aft = [] ∨ aft = ['}']) :
    ValueReads (language.quote :: ((value ++ language.quote :: rest).takeWhile (· != '}') ++ aft))
      (if '}' ∈ value then .reference else quotedTag value) := by
  have quote : '}' ≠ language.quote := by
    cases language <;> decide
  split
  · rename_i inside
    rw [takeWhile_ne_append_of_mem inside]
    refine .unclosed (quote_isQuote language) ?_
    intro member
    rcases List.mem_append.mp member with taken | last
    · exact closed ((List.takeWhile_prefix _).subset taken)
    · rcases closing with rfl | rfl
      · simp at last
      · exact quote (List.mem_singleton.mp last).symm
  · rename_i unbraced
    have goesOn : (language.quote != '}') = true := by simpa using quote.symm
    rw [takeWhile_ne_append_of_not_mem unbraced, List.takeWhile_cons, goesOn, if_pos rfl,
      List.append_assoc, List.cons_append]
    exact .closed (quote_isQuote language) closed

theorem projectAt_entry {before : Option Char} {s : List Char} {tag : ProjectTag}
    (apart : before.any isWord = false) (key : e.key = "Project".toList)
    (reads : ValueReads (language.quote :: s) tag) :
    ProjectAt before (e.key ++ (e.link ++ s)) tag := by
  have assigned : AssignedValue (e.gap ++ e.sign :: (e.space ++ language.quote :: s)) tag :=
    .mk e.gap_blank e.isSign e.space_blank reads
  rw [key]
  cases quoted : e.quotedKey with
  | true =>
    have link : e.link ++ s = language.quote ::
        (e.gap ++ e.sign :: (e.space ++ language.quote :: s)) := by
      simp [TagEntry.link, TagEntry.mark, quoted]
    rw [link]
    exact .quoted apart (quote_isQuote language) assigned
  | false =>
    have link : e.link ++ s = e.gap ++ e.sign :: (e.space ++ language.quote :: s) := by
      simp [TagEntry.link, TagEntry.mark, quoted]
    rw [link]
    exact .bare apart assigned

theorem cut_unbraced (unbraced : ∀ e ∈ w.entries, e.Unbraced) : w.cut = w.inner := by
  apply takeWhile_ne_of_not_mem
  rw [inner, List.mem_append]
  intro h
  rcases h with texts | trail
  · exact TagEntry.texts_unbraced_iff.mpr unbraced texts
  · exact between_not_brace (Or.inl (w.trail_spacing _ trail)) rfl

theorem inner_split (split : w.entries = earlier ++ e :: later) :
    w.inner = (earlier.flatMap TagEntry.text ++ e.lead) ++ (e.key ++ (e.link ++
      (e.value ++ language.quote :: (later.flatMap TagEntry.text ++ w.trail)))) := by
  simp [inner, split, TagEntry.text]

/-- The first entry with the project is read, unless a brace in its value hides the end of it. -/
theorem projectTag_entry (split : w.entries = earlier ++ e :: later)
    (key : e.key = "Project".toList) (closed : language.quote ∉ e.value)
    (silent : ∀ e ∈ earlier, ¬ e.Mentions "Project".toList)
    (unbraced : ∀ e ∈ earlier, e.Unbraced) :
    projectTag (.ofList w.seen) = if '}' ∈ e.value then .reference else quotedTag e.value := by
  have ahead : '}' ∉ (earlier.flatMap TagEntry.text ++ e.lead) ++ (e.key ++ e.link) := by
    simp only [List.mem_append, not_or]
    refine ⟨⟨TagEntry.texts_unbraced_iff.mpr unbraced, e.lead_unbraced⟩, ?_, e.link_unbraced⟩
    rw [key]
    decide
  have inner := inner_split split
  rw [← List.append_assoc e.key, ← List.append_assoc (_ ++ e.lead)] at inner
  obtain ⟨fore, aft, seen, apart, closing⟩ := w.seen_eq
  rw [cut, inner, takeWhile_ne_append_of_not_mem ahead] at seen
  have parts : w.seen = (fore ++ (earlier.flatMap TagEntry.text ++ e.lead)) ++ (e.key ++ (e.link ++
      ((e.value ++ language.quote :: (later.flatMap TagEntry.text ++ w.trail)).takeWhile
        (· != '}') ++ aft))) := by
    simp only [seen, List.append_assoc]
  have ends : EndsApart (fore ++ (earlier.flatMap TagEntry.text ++ e.lead)) :=
    endsApart_append (endsApart_of_apart apart)
      (endsApart_append (TagEntry.texts_end earlier) (endsApart_of_apart e.lead_apart))
  rw [parts]
  refine projectTag_at ?_ ends (projectAt_entry ends key (valueReads_cut closed closing))
  intro stands
  rcases TagEntry.stands_texts project_word (stands_append project_word apart stands) with
    ⟨x, member, mentions⟩ | lead
  · exact silent x member mentions
  · exact not_stands_of_apart project_word e.lead_apart lead

theorem key_in_seen (unbraced : ∀ e ∈ w.entries, e.Unbraced)
    (member : e ∈ w.entries) {tag : String} (key : e.key = tag.toList) :
    tag.occursIn (.ofList w.seen) = true := by
  obtain ⟨fore, aft, seen, _, _⟩ := w.seen_eq
  obtain ⟨earlier, later, split⟩ := List.append_of_mem member
  rw [occursIn_ofList, occurs_iff, seen, cut_unbraced unbraced,
    inner_split split, key]
  exact ⟨fore ++ (earlier.flatMap TagEntry.text ++ e.lead), e.link ++ (e.value ++
    language.quote :: (later.flatMap TagEntry.text ++ w.trail)) ++ aft, by simp⟩

end WrittenTags
end InfraLint.Source
