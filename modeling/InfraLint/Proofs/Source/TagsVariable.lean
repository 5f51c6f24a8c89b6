import InfraLint.Proofs.Source.BlockScan
import InfraLint.Proofs.Source.TagPlaces

/-!
The variable for tags and its default. Both are found by a word: the block by `variable`, the map in
it by `default`. The first letter of neither word comes again in what has to follow, so neither
search can start in front of its own place and stray into it.
-/
namespace InfraLint.Source
open Text

/-- The word `variable` stands somewhere in front of `"tags"`, with white space between them. -/
def DeclaresTags (s : List Char) : Prop :=
  ∃ u gap t, Gap gap ∧ s = u ++ ("variable".toList ++ gap ++ '"' :: ("tags".toList ++ ['"']) ++ t)

/- The block of the variable, where its braces nest two levels deep at most. -/
inductive VariableAt : List Char → List Char → Prop where
  | block {gap space body rest : List Char} (given : Gap gap) (blank : AllBlank space)
      (balanced : Balanced innerLevels body) :
      VariableAt ("variable".toList ++ gap ++ '"' :: ("tags".toList ++ ['"']) ++
        (space ++ '{' :: body ++ '}' :: rest)) body

theorem tagsVariable?_eq_some {s body : List Char} :
    tagsVariable? s = some body ↔ VariableAt s body := by
  simp only [tagsVariable?, Option.bind_eq_bind, Option.bind_eq_some_iff, after?_eq_some,
    blank?_eq_some, braced?_eq_some, Option.pure_def, Option.some.injEq, Prod.exists]
  constructor
  · intro h
    obtain ⟨_, rfl, _, ⟨⟨gap, some, blank₁, rfl⟩, _⟩, _, rfl, _, rest, ⟨space, blank₂, balanced,
      rfl⟩, rfl⟩ := h
    have block := @VariableAt.block gap space _ rest ⟨some, blank₁⟩ blank₂ balanced
    simpa using block
  · intro stands
    cases stands with
    | @block gap space _ rest given blank balanced =>
      have name : Unblanked ("\"tags\"".toList ++ (space ++ '{' :: body ++ '}' :: rest)) :=
        unblanked_cons.mpr (by decide)
      exact ⟨_, by simp, _, ⟨⟨gap, given.1, given.2, rfl⟩, name⟩, _, by simp, body, rest,
        ⟨space, blank, balanced, rfl⟩, rfl⟩

theorem tags_of_declares {s : List Char} (h : DeclaresTags s) : occurs "tags".toList s = true := by
  obtain ⟨u, gap, v, _, rfl⟩ := h
  exact occurs_iff.mpr ⟨u ++ ("variable".toList ++ gap ++ ['"']), '"' :: v, by simp⟩

theorem VariableAt.declares {s body : List Char} (stands : VariableAt s body) :
    DeclaresTags s := by
  cases stands with
  | block given blank balanced => exact ⟨[], _, _, given, rfl⟩

theorem defaultMap?_eq_some {s entries : List Char} :
    defaultMap? s = some entries ↔ '}' ∉ entries ∧ ∃ gap space rest, AllBlank gap ∧
      AllBlank space ∧
      s = "default".toList ++ (gap ++ '=' :: (space ++ '{' :: (entries ++ '}' :: rest))) := by
  simp only [defaultMap?, Option.bind_eq_bind, Option.bind_eq_some_iff, after?_eq_some,
    assigned?_eq_some, toBrace?_eq_some, Option.pure_def, Option.some.injEq, Prod.exists]
  constructor
  · intro h
    obtain ⟨_, ⟨⟨gap, space, blank₁, blank₂, rfl⟩, _⟩, _, rfl, _, rest, ⟨rfl, closes⟩, rfl⟩ := h
    exact ⟨closes, gap, space, rest, blank₁, blank₂, rfl⟩
  · intro h
    obtain ⟨closes, gap, space, rest, blank₁, blank₂, rfl⟩ := h
    exact ⟨_, ⟨⟨gap, space, blank₁, blank₂, rfl⟩, brace_unblanked _⟩, _, rfl, entries, rest,
      ⟨rfl, closes⟩, rfl⟩

/- No block of the variable stands anywhere in the source. -/
def NoTagsVariable (content : String) : Prop :=
  ∀ u v body, content.toList = u ++ v → ¬ VariableAt v body

theorem noTagsVariable_iff {content : String} :
    NoTagsVariable content ↔ find? (fun _ => tagsVariable?) none content.toList = none := by
  rw [find?_eq_none_iff]
  constructor
  · intro nowhere u v split
    rw [Option.eq_none_iff_forall_ne_some]
    intro body taken
    exact nowhere u v body split (tagsVariable?_eq_some.mp taken)
  · intro misses u v body split stands
    have taken := tagsVariable?_eq_some.mpr stands
    simp [misses u v split] at taken

instance (content : String) : Decidable (NoTagsVariable content) :=
  decidable_of_iff _ noTagsVariable_iff.symm

theorem tagsDefault?_noVariable {content : String} (nowhere : NoTagsVariable content) :
    tagsDefault? content = none := by
  rw [tagsDefault?, noTagsVariable_iff.mp nowhere]
  rfl

theorem tagsDefault?_eq_none {content : String} (silent : ¬ DeclaresTags content.toList) :
    tagsDefault? content = none := by
  apply tagsDefault?_noVariable
  intro u v body split stands
  obtain ⟨front, gap, t, given, rfl⟩ := stands.declares
  exact silent ⟨u ++ front, gap, t, given, by simp [split]⟩

/-- A source with a block for the variable `tags`, the first of its kind, in which a map is given
as the default. -/
structure TagsVariable where
  ahead : List Char
  gap : List Char
  space : List Char
  above : List Char
  left : List Char
  right : List Char
  entries : List Char
  below : List Char
  behind : List Char
  first : ¬ DeclaresTags ahead
  gap_given : Gap gap
  space_blank : AllBlank space
  above_balanced : Balanced innerLevels above
  above_silent : occurs "default".toList above = false
  left_blank : AllBlank left
  right_blank : AllBlank right
  entries_unbraced : '{' ∉ entries ∧ '}' ∉ entries
  below_balanced : Balanced innerLevels below

namespace TagsVariable

/- The default and all that follows it in the block. -/
def assignment (w : TagsVariable) : List Char :=
  "default".toList ++ (w.left ++ '=' :: (w.right ++ '{' :: (w.entries ++ '}' :: w.below)))

def body (w : TagsVariable) : List Char := w.above ++ w.assignment

def source (w : TagsVariable) : List Char :=
  w.ahead ++ ("variable".toList ++ w.gap ++ '"' :: ("tags".toList ++ ['"']) ++
    (w.space ++ '{' :: w.body ++ '}' :: w.behind))

def text (w : TagsVariable) : String := .ofList w.source

theorem body_balanced (w : TagsVariable) : Balanced innerLevels w.body := by
  have flat {s : List Char} (blank : AllBlank s) : Balanced innerLevels s := by
    apply balanced_of_unbraced
    · intro opens
      exact absurd (blank _ opens) (by decide)
    · intro closes
      exact absurd (blank _ closes) (by decide)
  have name : Balanced innerLevels "default".toList :=
    balanced_of_unbraced (by decide) (by decide)
  have inner : Balanced 1 w.entries :=
    balanced_of_unbraced w.entries_unbraced.1 w.entries_unbraced.2
  have wrapped : Balanced innerLevels ('{' :: w.entries ++ ['}']) := balanced_wrap inner
  have map : Balanced innerLevels ('{' :: (w.entries ++ '}' :: w.below)) := by
    simpa using balanced_append wrapped w.below_balanced
  have value : Balanced innerLevels ('=' :: (w.right ++ '{' :: (w.entries ++ '}' :: w.below))) :=
    (balanced_cons (by decide) (by decide)).mpr (balanced_append (flat w.right_blank) map)
  exact balanced_append w.above_balanced
    (balanced_append name (balanced_append (flat w.left_blank) value))

theorem find?_block (w : TagsVariable) :
    find? (fun _ => tagsVariable?) none w.source = some w.body := by
  refine find?_behind (a := 'v') ?_ ?_
  · intro t body taken
    cases tagsVariable?_eq_some.mp taken with
    | @block gap _ _ _ given =>
      refine ⟨"ariable".toList ++ gap ++ '"' :: ("tags".toList ++ ['"']), _, ?_, rfl, ?_⟩
      · simp only [List.mem_append, not_or]
        refine ⟨⟨by decide, ?_⟩, by decide⟩
        intro member
        exact absurd (given.2 _ member) (by decide)
      · intro u v split
        exact w.first ⟨u, gap, v, given, by rw [split, List.append_assoc]; rfl⟩
  · exact tagsVariable?_eq_some.mpr (.block w.gap_given w.space_blank w.body_balanced)

theorem find?_default (w : TagsVariable) :
    find? (fun _ => defaultMap?) none w.body = some w.entries := by
  refine find?_behind (a := 'd') ?_ ?_
  · intro t entries taken
    obtain ⟨_, gap, space, rest, _, _, rfl⟩ := defaultMap?_eq_some.mp taken
    exact ⟨"efault".toList, _, by decide, rfl, occurs_eq_false.mp w.above_silent⟩
  · exact defaultMap?_eq_some.mpr ⟨w.entries_unbraced.2, w.left, w.right, w.below,
      w.left_blank, w.right_blank, rfl⟩

/-- The default that is read is the written one, whatever stands around the block and in it. -/
theorem tagsDefault?_text (w : TagsVariable) : tagsDefault? w.text = some (.ofList w.entries) := by
  have text : w.text.toList = w.source := String.toList_ofList
  simp only [tagsDefault?, text, w.find?_block, w.find?_default, Option.bind_eq_bind,
    Option.bind_some, Option.pure_def]

end TagsVariable
end InfraLint.Source
