import InfraLint.Proofs.Source.DeclarationScan
import InfraLint.Proofs.Source.LiteralMap
import InfraLint.Proofs.Source.TagsVariable

/-!
Sources that hold one resource with a tag map of literals, and the word `tags` nowhere else in its
body. Its block is the only one of the source, and no variable for tags is declared there, whatever
type and name the resource has.
-/
namespace InfraLint.Source
open Text

/-- A resource with a map of literals, and what stands around its parts. -/
structure TagBlock where
  declaration : Declaration
  head : List Char
  space : List Char
  tags : WrittenTags declaration.language
  after : List Char
  header : HeaderText declaration head
  space_blank : AllBlank space
  balanced : Balanced innerLevels tags.body
  literal : tags.Literal
  untagged : occurs "tags".toList tags.back = false
  after_blank : AllBlank after

namespace TagBlock

def source (b : TagBlock) : List Char :=
  b.head ++ b.space ++ '{' :: b.tags.body ++ '}' :: b.after

def text (b : TagBlock) : String := .ofList b.source

def block (b : TagBlock) : Block := ⟨b.declaration, .ofList b.tags.body⟩

theorem block_body (b : TagBlock) : b.block.body.toList = b.tags.body := String.toList_ofList

end TagBlock

theorem TagBlock.blocks_text (b : TagBlock) :
    blocks b.declaration.language b.text = [b.block] :=
  blocks_single b.header b.space_blank b.balanced b.after_blank

/-! The variable for tags -/

section Splits

variable {c : Char} {a b s t u v w : List Char}

theorem infix_split (fresh : c ∉ w) (split : s ++ c :: t = u ++ (w ++ v)) :
    (∃ x, s = u ++ (w ++ x)) ∨ ∃ x, t = x ++ (w ++ v) := by
  rcases List.append_eq_append_iff.mp split with ⟨x, rfl, behind⟩ | ⟨x, rfl, behind⟩
  · cases x with
    | nil =>
      cases w with
      | nil => exact Or.inl ⟨[], by simp⟩
      | cons d w =>
        obtain ⟨rfl, _⟩ := List.cons.inj behind
        simp at fresh
    | cons d x =>
      obtain ⟨_, rfl⟩ := List.cons.inj behind
      exact Or.inr ⟨x, rfl⟩
  · rcases List.append_eq_append_iff.mp behind with ⟨y, rfl, _⟩ | ⟨y, rfl, last⟩
    · exact Or.inl ⟨y, rfl⟩
    · cases y with
      | nil => exact Or.inl ⟨[], by simp⟩
      | cons d y =>
        obtain ⟨rfl, _⟩ := List.cons.inj last
        simp at fresh

/-- A mark behind a text without it is the first one, or all of the text stands in front of it. -/
theorem mark_split (fresh : c ∉ a) (split : a ++ c :: b = u ++ c :: v) :
    (u = a ∧ v = b) ∨ ∃ x, u = a ++ c :: x ∧ b = x ++ c :: v := by
  rcases List.append_eq_append_iff.mp split with ⟨x, rfl, behind⟩ | ⟨x, rfl, behind⟩
  · cases x with
    | nil =>
      obtain ⟨_, rfl⟩ := List.cons.inj behind
      exact Or.inl ⟨by simp, rfl⟩
    | cons d x =>
      obtain ⟨rfl, rfl⟩ := List.cons.inj behind
      exact Or.inr ⟨x, rfl, rfl⟩
  · cases x with
    | nil =>
      obtain ⟨_, rfl⟩ := List.cons.inj behind
      exact Or.inl ⟨by simp, rfl⟩
    | cons d x =>
      obtain ⟨rfl, _⟩ := List.cons.inj behind
      simp at fresh

/-- Blanks at the end of a text are behind its last other character. -/
theorem blank_end_unique {d : Char} (blank : AllBlank s) (blank' : AllBlank t)
    (given : isBlank c = false) (given' : isBlank d = false)
    (same : u ++ c :: s = v ++ d :: t) : u = v ∧ c = d := by
  have trimmed : ∀ {x y : List Char} {e : Char}, AllBlank y → isBlank e = false →
      skipBlank (x ++ e :: y).reverse = e :: x.reverse := by
    intro x y e blank given
    have reversed : AllBlank y.reverse := fun c member => blank c (List.mem_reverse.mp member)
    rw [List.reverse_append, List.reverse_cons, List.append_assoc, skipBlank_append reversed]
    exact skipBlank_unblanked (unblanked_cons.mpr given)
  have reversed := congrArg (fun x => skipBlank x.reverse) same
  simp only [trimmed blank given, trimmed blank' given', List.cons.injEq,
    List.reverse_inj] at reversed
  exact ⟨reversed.2, reversed.1⟩

end Splits

/- The parts of a block between its equals signs and braces. None of them can hold the words that
   declare the variable: they have too few quotes, or no letter in front of the first one. -/
section Parts

variable {c : Char} {s t gap : List Char}

theorem declares_split (mark : c = '=' ∨ c = '{' ∨ c = '}') (h : DeclaresTags (s ++ c :: t)) :
    DeclaresTags s ∨ DeclaresTags t := by
  obtain ⟨u, gap, v, given, split⟩ := h
  have unblanked : isBlank c = false := by
    rcases mark with rfl | rfl | rfl <;> decide
  have fresh : c ∉ "variable".toList ++ gap ++ '"' :: ("tags".toList ++ ['"']) := by
    have outside : c ∉ gap := by
      intro member
      simp [given.2 c member] at unblanked
    simp only [List.mem_append, not_or]
    refine ⟨⟨?_, outside⟩, ?_⟩ <;> rcases mark with rfl | rfl | rfl <;> decide
  rcases infix_split fresh split with ⟨x, rfl⟩ | ⟨x, rfl⟩
  · exact Or.inl ⟨u, gap, x, given, rfl⟩
  · exact Or.inr ⟨x, gap, v, given, rfl⟩

theorem quote_of_declares (h : DeclaresTags s) : '"' ∈ s := by
  obtain ⟨u, gap, v, _, rfl⟩ := h
  simp

theorem quote_not_mem_blank (blank : AllBlank s) : '"' ∉ s := by
  intro member
  have := blank _ member
  revert this
  decide

/-- The letter in front of the white space is a letter of `variable`. -/
theorem letter_before_gap (u gap : List Char) : 'e' ∈ u ++ ("variable".toList ++ gap) := by
  simp

theorem not_declares_quotePair {space value behind : List Char} (blank : AllBlank space)
    (unquoted : '"' ∉ value) (silent : '"' ∉ behind) :
    ¬ DeclaresTags (space ++ '"' :: (value ++ '"' :: behind)) := by
  rintro ⟨u, gap, v, _, split⟩
  have parts : space ++ '"' :: (value ++ '"' :: behind) =
      (u ++ ("variable".toList ++ gap)) ++ '"' :: ("tags".toList ++ '"' :: v) := by
    simp [split]
  rcases mark_split (quote_not_mem_blank blank) parts with ⟨front, _⟩ | ⟨x, _, inner⟩
  · -- only white space stands in front of the first quote
    have letter := blank 'e' (front ▸ letter_before_gap u gap)
    revert letter
    decide
  · rcases mark_split unquoted inner with ⟨_, rest⟩ | ⟨y, _, rest⟩
    · exact silent (by simp [← rest])
    · exact silent (by simp [rest])

theorem not_declares_header {head space : List Char} {d : Declaration}
    (header : HeaderText d head) (terraform : d.language = .terraform) (blank : AllBlank space) :
    ¬ DeclaresTags (head ++ space) := by
  cases header with
  | bicep => cases terraform
  | @terraform first kind second name gap₁ kindText gap₂ nameText =>
    rintro ⟨u, gap, v, given, split⟩
    have blankStart : ∀ {s r t : List Char}, AllBlank s → s ≠ [] → s ++ r ≠ "tags".toList ++ t := by
      intro s r t blank some same
      obtain ⟨c, s, rfl⟩ := List.exists_cons_of_ne_nil some
      have first : c = 't' := (List.cons.inj same).1
      have := (allBlank_cons.mp blank).1
      revert this
      rw [first]
      decide
    have parts : ("resource".toList ++ first) ++ '"' :: (kind ++ '"' :: (second ++ '"' ::
        (name ++ '"' :: space))) =
          (u ++ ("variable".toList ++ gap)) ++ '"' :: ("tags".toList ++ '"' :: v) := by
      simpa using split
    have opening : '"' ∉ "resource".toList ++ first := by
      rw [List.mem_append]
      rintro (word | white)
      · revert word
        decide
      · exact quote_not_mem_blank gap₁.2 white
    rcases mark_split opening parts with ⟨front, _⟩ | ⟨x, front, behindKind⟩
    · -- the word in front of the first quote is `resource`
      have ends : (u ++ "variabl".toList) ++ 'e' :: gap = "resourc".toList ++ 'e' :: first := by
        simpa using front
      have same := (blank_end_unique given.2 gap₁.2 (by decide) (by decide) ends).1
      have lengths := congrArg List.length same
      simp only [List.length_append, String.reduceToList, List.length_cons, List.length_nil]
        at lengths
      obtain rfl : u = [] := List.eq_nil_of_length_eq_zero (by omega)
      revert same
      decide
    · rcases mark_split kindText.2 behindKind with ⟨_, rest⟩ | ⟨y, rfl, behindSecond⟩
      · exact blankStart gap₂.2 gap₂.1 rest.symm
      · rcases mark_split (quote_not_mem_blank gap₂.2) behindSecond with
          ⟨rfl, _⟩ | ⟨z, rfl, behindName⟩
        · -- in front of the third quote stands the second one
          have ends : (u ++ "variabl".toList) ++ 'e' :: gap =
              (("resource".toList ++ first) ++ '"' :: kind) ++ '"' :: y := by
            simpa using front
          have same := (blank_end_unique given.2 gap₂.2 (by decide) (by decide) ends).2
          revert same
          decide
        · have last : '"' ∈ space := by
            rcases mark_split nameText.2 behindName with ⟨_, rest⟩ | ⟨_, _, rest⟩
            · simp [← rest]
            · simp [rest]
          exact quote_not_mem_blank blank last

theorem not_declares_front {front : List Char} (untagged : occurs "tags".toList front = false)
    (blank : AllBlank gap) : ¬ DeclaresTags (front ++ ("tags".toList ++ gap)) := by
  rintro ⟨u, white, v, _, split⟩
  have parts : front ++ ("tags".toList ++ gap) =
      (u ++ ("variable".toList ++ white) ++ ['"']) ++ ("tags".toList ++ '"' :: v) := by
    simpa using split
  have unquoted : '"' ∉ "tags".toList ++ gap := by
    rw [List.mem_append]
    rintro (word | inGap)
    · revert word
      decide
    · exact quote_not_mem_blank blank inGap
  rcases List.append_eq_append_iff.mp parts with ⟨x, _, behind⟩ | ⟨x, rfl, behind⟩
  · apply unquoted
    rw [behind]
    simp
  · cases x with
    | nil =>
      obtain rfl : '"' :: v = gap := by simpa using behind
      exact unquoted (by simp)
    | cons c x =>
      obtain ⟨y, rest⟩ := no_overlap (a := 't') (w := ['a', 'g', 's']) (by decide)
        (List.cons_ne_nil c x) behind.symm
      have present : occurs "tags".toList
          (u ++ ("variable".toList ++ white) ++ ['"'] ++ c :: x) = true := by
        rw [occurs_iff]
        exact ⟨_, y, by rw [rest, ← List.append_assoc]; rfl⟩
      rw [untagged] at present
      exact Bool.noConfusion present

/-- Nothing, or a value in quotes with white space in front of it. -/
def ValueEnds (s : List Char) : Prop :=
  s = [] ∨ ∃ space value, AllBlank space ∧ '"' ∉ value ∧ s = space ++ '"' :: (value ++ ['"'])

theorem not_declares_valueEnds (value : ValueEnds s) (silent : '"' ∉ t) :
    ¬ DeclaresTags (s ++ t) := by
  rcases value with rfl | ⟨space, value, blank, unquoted, rfl⟩
  · exact fun h => silent (quote_of_declares h)
  · simpa using not_declares_quotePair blank unquoted silent

theorem quote_not_mem_spacing (spacing : Spacing s) : '"' ∉ s := by
  intro member
  rcases spacing _ member with blank | comma
  · exact quote_not_mem_blank (s := ['"']) (fun c inside => by simp_all) (by simp)
  · revert comma
    decide

/- By induction on the entries: the equals sign of each keeps the value before it apart from what
   follows. -/
theorem not_declares_entries {entries : List (TagEntry .terraform)} {trail : List Char}
    (bare : ∀ e ∈ entries, e.quotedKey = false) (identifier : ∀ e ∈ entries, Identifier e.key)
    (assigned : ∀ e ∈ entries, e.sign = '=') (plain : ∀ e ∈ entries, PlainValue e.value)
    (spacing : Spacing trail) (value : ValueEnds s) :
    ¬ DeclaresTags (s ++ (entries.flatMap TagEntry.text ++ trail)) := by
  induction entries generalizing s with
  | nil => exact not_declares_valueEnds value (quote_not_mem_spacing spacing)
  | cons e entries ih =>
    simp only [List.forall_mem_cons] at bare identifier assigned plain
    have key : '"' ∉ e.indent ++ (e.key ++ e.gap) := by
      simp only [List.mem_append, not_or]
      refine ⟨quote_not_mem_spacing e.indent_spacing, ?_, quote_not_mem_blank e.gap_blank⟩
      intro member
      rcases identifier.1.2 _ member with letter | hyphen
      · revert letter
        decide
      · revert hyphen
        decide
    have ends : ValueEnds (e.space ++ '"' :: (e.value ++ ['"'])) :=
      Or.inr ⟨e.space, e.value, e.space_blank, fun member => (plain.1 _ member).1 (Or.inl rfl), rfl⟩
    have text : s ++ ((e :: entries).flatMap TagEntry.text ++ trail) =
        (s ++ (e.indent ++ (e.key ++ e.gap))) ++ '=' ::
          ((e.space ++ '"' :: (e.value ++ ['"'])) ++ (entries.flatMap TagEntry.text ++ trail)) := by
      simp [TagEntry.text, TagEntry.lead, TagEntry.link, TagEntry.mark, bare.1, assigned.1,
        Language.quote]
    rw [text]
    intro declares
    rcases declares_split (Or.inl rfl) declares with front | behind
    · exact not_declares_valueEnds value key front
    · exact ih bare.2 identifier.2 assigned.2 plain.2 ends behind

end Parts

theorem TagBlock.not_declares (b : TagBlock) (terraform : b.declaration.language = .terraform) :
    ¬ DeclaresTags b.source := by
  obtain ⟨⟨language, kind, name⟩, head, space, w, after, header, blank, _, literal, untagged,
    trailing⟩ := b
  obtain rfl : language = .terraform := terraform
  have text : head ++ space ++ '{' :: w.body ++ '}' :: after = (head ++ space) ++ '{' ::
      ((w.front ++ ("tags".toList ++ w.gap)) ++ '=' :: (w.space ++ '{' ::
        (([] ++ (w.entries.flatMap TagEntry.text ++ w.trail)) ++ '}' ::
          (w.back ++ '}' :: after)))) := by
    simp [WrittenTags.body, WrittenTags.inner, Language.sign]
  intro declares
  simp only [TagBlock.source] at declares
  rw [text] at declares
  rcases declares_split (Or.inr (Or.inl rfl)) declares with inHeader | declares
  · exact not_declares_header header rfl blank inHeader
  rcases declares_split (Or.inl rfl) declares with inFront | declares
  · exact not_declares_front w.untagged w.gap_blank inFront
  rcases declares_split (Or.inr (Or.inl rfl)) declares with inSpace | declares
  · exact quote_not_mem_blank w.space_blank (quote_of_declares inSpace)
  rcases declares_split (Or.inr (Or.inr rfl)) declares with inEntries | declares
  · exact not_declares_entries literal.bare literal.identifier literal.assigned literal.plain
      w.trail_spacing (Or.inl rfl) inEntries
  rcases declares_split (Or.inr (Or.inr rfl)) declares with inBack | inAfter
  · rw [tags_of_declares inBack] at untagged
    exact Bool.noConfusion untagged
  · exact quote_not_mem_blank trailing (quote_of_declares inAfter)

theorem TagBlock.tagsDefault?_text (b : TagBlock)
    (terraform : b.declaration.language = .terraform) : tagsDefault? b.text = none := by
  apply tagsDefault?_eq_none
  rw [text, String.toList_ofList]
  exact b.not_declares terraform

end InfraLint.Source
