import InfraLint.Proofs.Source.ProjectKey
import InfraLint.Proofs.Source.TagPlaces
import InfraLint.Source.Block

/-!
Tag maps as they are written in a resource body, and what the search for the map sees of them: the
text of the map up to its first closing brace, whether that brace ends the map or stands in a key
or a value.
-/
namespace InfraLint.Source
open Text

def Language.quote : Language → Char
  | .terraform => '"'
  | .bicep => '\''

def Language.sign : Language → Char
  | .terraform => '='
  | .bicep => ':'

theorem quote_isQuote (language : Language) : IsQuote language.quote := by
  cases language <;> simp [Language.quote, IsQuote]

def Spacing (s : List Char) : Prop := ∀ c ∈ s, isBlank c = true ∨ c = ','

theorem spacing_of_blank {s : List Char} (blank : AllBlank s) : Spacing s :=
  fun c member => Or.inl (blank c member)

structure TagEntry (language : Language) where
  indent : List Char
  quotedKey : Bool
  key : List Char
  gap : List Char
  sign : Char
  space : List Char
  value : List Char
  indent_spacing : Spacing indent
  gap_blank : AllBlank gap
  isSign : IsSign sign
  space_blank : AllBlank space

/-- A body with a tag map that is written out. The word `tags` does not stand in front of it, and
Bicep has nothing between that word and its colon. -/
structure WrittenTags (language : Language) where
  front : List Char
  gap : List Char
  space : List Char
  entries : List (TagEntry language)
  trail : List Char
  back : List Char
  untagged : occurs "tags".toList front = false
  gap_blank : AllBlank gap
  joined : language = .bicep → gap = []
  space_blank : AllBlank space
  trail_spacing : Spacing trail

namespace TagEntry
variable {language : Language}

def mark (e : TagEntry language) : List Char := if e.quotedKey then [language.quote] else []

def lead (e : TagEntry language) : List Char := e.indent ++ e.mark

def link (e : TagEntry language) : List Char :=
  e.mark ++ (e.gap ++ e.sign :: (e.space ++ [language.quote]))

def text (e : TagEntry language) : List Char :=
  e.lead ++ (e.key ++ (e.link ++ (e.value ++ [language.quote])))

def Mentions (w : List Char) (e : TagEntry language) : Prop := Stands w e.key ∨ Stands w e.value

def Unbraced (e : TagEntry language) : Prop := '}' ∉ e.key ∧ '}' ∉ e.value

end TagEntry

namespace WrittenTags
variable {language : Language}

def inner (w : WrittenTags language) : List Char :=
  w.entries.flatMap TagEntry.text ++ w.trail

def body (w : WrittenTags language) : List Char :=
  w.front ++ ("tags".toList ++ (w.gap ++ language.sign :: (w.space ++ '{' ::
    (w.inner ++ '}' :: w.back))))

def cut (w : WrittenTags language) : List Char := w.inner.takeWhile (· != '}')

def seen (w : WrittenTags language) : List Char :=
  match language with
  | .terraform => '{' :: w.cut ++ ['}']
  | .bicep => w.cut

end WrittenTags

section Search

theorem toBrace?_append (s r : List Char) :
    ∃ rest, toBrace? (s ++ '}' :: r) = some (s.takeWhile (· != '}'), rest) := by
  by_cases inside : '}' ∈ s
  · obtain ⟨t, u, rfl, fresh⟩ := split_at_first inside
    refine ⟨u ++ '}' :: r, ?_⟩
    simp only [toBrace?, List.append_assoc, List.cons_append, dropWhile_ne_append fresh,
      takeWhile_ne_append fresh]
  · refine ⟨r, ?_⟩
    simp only [toBrace?, dropWhile_ne_append inside, takeWhile_ne_append inside,
      takeWhile_ne_of_not_mem inside]

theorem terraformTags?_starts {s found : List Char} (taken : terraformTags? s = some found) :
    ∃ t, s = "tags".toList ++ t := by
  cases terraformTags?_eq_some.mp taken with
  | map => exact ⟨_, rfl⟩
  | interpolation => exact ⟨_, rfl⟩

theorem bicepTags?_starts {s found : List Char} (taken : bicepTags? s = some found) :
    ∃ t, s = "tags".toList ++ t := by
  cases bicepTags?_eq_some.mp taken with
  | @property space _ rest => exact ⟨':' :: (space ++ '{' :: (found ++ '}' :: rest)), rfl⟩

theorem find?_tags_append {recogniser : List Char → Option (List Char)}
    {front s found : List Char}
    (starts : ∀ s found, recogniser s = some found → ∃ t, s = "tags".toList ++ t)
    (untagged : occurs "tags".toList front = false)
    (here : recogniser ("tags".toList ++ s) = some found) :
    find? (fun _ => recogniser) none (front ++ ("tags".toList ++ s)) = some found := by
  refine find?_behind (a := 't') ?_ here
  intro t found taken
  obtain ⟨r, rfl⟩ := starts t found taken
  exact ⟨"ags".toList, r, by decide, rfl, occurs_eq_false.mp untagged⟩

theorem terraformTags?_map {gap space : List Char} (inner back : List Char) (blank₁ : AllBlank gap)
    (blank₂ : AllBlank space) :
    terraformTags? ("tags".toList ++ (gap ++ '=' :: (space ++ '{' :: (inner ++ '}' :: back)))) =
      some ('{' :: inner.takeWhile (· != '}') ++ ['}']) := by
  obtain ⟨rest, closes⟩ := toBrace?_append inner back
  obtain ⟨split, unbraced⟩ := toBrace?_eq_some.mp closes
  rw [split]
  exact terraformTags?_eq_some.mpr (.map blank₁ blank₂ unbraced)

theorem bicepTags?_map {space : List Char} (inner back : List Char) (blank : AllBlank space) :
    bicepTags? ("tags".toList ++ ':' :: (space ++ '{' :: (inner ++ '}' :: back))) =
      some (inner.takeWhile (· != '}')) := by
  obtain ⟨rest, closes⟩ := toBrace?_append inner back
  obtain ⟨split, unbraced⟩ := toBrace?_eq_some.mp closes
  rw [split]
  exact bicepTags?_eq_some.mpr (.property blank unbraced)

theorem body_terraform (w : WrittenTags .terraform) :
    w.body = w.front ++ ("tags".toList ++ (w.gap ++ '=' :: (w.space ++ '{' ::
      (w.inner ++ '}' :: w.back)))) := rfl

theorem body_bicep (w : WrittenTags .bicep) :
    w.body = w.front ++ ("tags".toList ++ ':' :: (w.space ++ '{' ::
      (w.inner ++ '}' :: w.back))) := by
  simp only [WrittenTags.body, w.joined rfl, List.nil_append, Language.sign]

/-- The map that is found is the written one, as far as its first closing brace. -/
theorem tagMap?_written {language : Language} {body : String} {w : WrittenTags language}
    (written : body.toList = w.body) : tagMap? language body = some (.ofList w.seen) := by
  cases language with
  | terraform =>
    have map := terraformTags?_map w.inner w.back w.gap_blank w.space_blank
    have found := find?_tags_append (fun _ _ => terraformTags?_starts) w.untagged map
    rw [← body_terraform, ← written] at found
    exact congrArg (Option.map String.ofList) found
  | bicep =>
    have map := bicepTags?_map w.inner w.back w.space_blank
    have found := find?_tags_append (fun _ _ => bicepTags?_starts) w.untagged map
    rw [← body_bicep, ← written] at found
    exact congrArg (Option.map String.ofList) found

end Search
end InfraLint.Source
