import InfraLint.Proofs.Text.Blank
import InfraLint.Proofs.Text.LeftToRight
import InfraLint.Proofs.Text.Until
import InfraLint.Source.TagMap

/-!
Where a tag map stands in a resource body. `TagsAt` says what is taken for a map at one place, and
the first such place of the body is the one that counts. The name in front of the map is not looked
at from the left, so an attribute whose name ends in `tags` holds a map as well as `tags` does.
-/
namespace InfraLint.Source
open Text

/- A map ends at the next closing brace. In Terraform its braces belong to it, and an interpolation
   may stand in its place. -/
inductive TagsAt : Language → List Char → List Char → Prop where
  | map {gap space inner rest : List Char} (blank₁ : AllBlank gap) (blank₂ : AllBlank space)
      (closes : '}' ∉ inner) :
      TagsAt .terraform ("tags".toList ++ (gap ++ '=' :: (space ++ '{' :: (inner ++ '}' :: rest))))
        ('{' :: inner ++ ['}'])
  | interpolation {gap space inner rest : List Char} (blank₁ : AllBlank gap)
      (blank₂ : AllBlank space) (closes : '}' ∉ inner) :
      TagsAt .terraform
        ("tags".toList ++ (gap ++ '=' :: (space ++ '$' :: '{' :: (inner ++ '}' :: rest))))
        ('$' :: '{' :: inner ++ ['}'])
  | property {space inner rest : List Char} (blank : AllBlank space) (closes : '}' ∉ inner) :
      TagsAt .bicep ("tags:".toList ++ (space ++ '{' :: (inner ++ '}' :: rest))) inner

theorem brace_unblanked (s : List Char) : Unblanked ('{' :: s) := by
  rw [unblanked_cons]
  decide

theorem toBrace?_eq_some {s inner rest : List Char} :
    toBrace? s = some (inner, rest) ↔ s = inner ++ '}' :: rest ∧ '}' ∉ inner := by
  constructor
  · intro taken
    by_cases closes : '}' ∈ s
    · obtain ⟨u, v, rfl, fresh⟩ := split_at_first closes
      simp only [toBrace?, dropWhile_ne_append fresh, takeWhile_ne_append fresh,
        Option.some.injEq, Prod.mk.injEq] at taken
      obtain ⟨rfl, rfl⟩ := taken
      exact ⟨rfl, fresh⟩
    · simp [toBrace?, dropWhile_ne_of_not_mem closes] at taken
  · intro h
    obtain ⟨rfl, fresh⟩ := h
    simp only [toBrace?, dropWhile_ne_append fresh, takeWhile_ne_append fresh]

theorem assigned?_eq_some {key s r : List Char} :
    assigned? key s = some r ↔
      (∃ gap space, AllBlank gap ∧ AllBlank space ∧ s = key ++ (gap ++ '=' :: (space ++ r))) ∧
        Unblanked r := by
  simp only [assigned?, Option.bind_eq_bind, Option.bind_eq_some_iff, after?_eq_some,
    skipBlank_eq_iff, Option.pure_def, Option.some.injEq]
  constructor
  · intro h
    obtain ⟨_, rfl, _, ⟨⟨gap, blank₁, rfl⟩, _⟩, ⟨space, blank₂, rfl⟩, stop⟩ := h
    exact ⟨⟨gap, space, blank₁, blank₂, by simp⟩, stop⟩
  · intro h
    obtain ⟨⟨gap, space, blank₁, blank₂, rfl⟩, stop⟩ := h
    have sign : Unblanked (['='] ++ (space ++ r)) := unblanked_cons.mpr (by decide)
    exact ⟨_, rfl, _, ⟨⟨gap, blank₁, rfl⟩, sign⟩, ⟨space, blank₂, rfl⟩, stop⟩

theorem terraformTags?_eq_some {s tags : List Char} :
    terraformTags? s = some tags ↔ TagsAt .terraform s tags := by
  constructor
  · intro found
    obtain ⟨r, assigned, taken⟩ := Option.bind_eq_some_iff.mp found
    obtain ⟨⟨gap, space, blank₁, blank₂, rfl⟩, _⟩ := assigned?_eq_some.mp assigned
    split at taken
    · rename_i behind opens
      obtain rfl := after?_eq_some.mp opens
      obtain ⟨⟨inner, rest⟩, closed, same⟩ := Option.bind_eq_some_iff.mp taken
      obtain ⟨rfl, closes⟩ := toBrace?_eq_some.mp closed
      obtain rfl := Option.some.inj same
      exact .map blank₁ blank₂ closes
    · obtain ⟨behind, opens, inside⟩ := Option.bind_eq_some_iff.mp taken
      obtain rfl := after?_eq_some.mp opens
      obtain ⟨⟨inner, rest⟩, closed, same⟩ := Option.bind_eq_some_iff.mp inside
      obtain ⟨rfl, closes⟩ := toBrace?_eq_some.mp closed
      obtain rfl := Option.some.inj same
      exact .interpolation blank₁ blank₂ closes
  · intro stands
    cases stands with
    | @map gap space inner rest blank₁ blank₂ closes =>
      have assigned := (@assigned?_eq_some "tags".toList _ _).mpr
        ⟨⟨gap, space, blank₁, blank₂, rfl⟩, brace_unblanked (inner ++ '}' :: rest)⟩
      have opens : after? ['{'] ('{' :: (inner ++ '}' :: rest)) = some _ := rfl
      have closed := toBrace?_eq_some.mpr ⟨(rfl : inner ++ '}' :: rest = _), closes⟩
      simp only [terraformTags?, assigned, Option.bind_eq_bind, Option.bind_some, opens, closed,
        Option.pure_def]
    | @interpolation gap space inner rest blank₁ blank₂ closes =>
      have unblanked : Unblanked ('$' :: '{' :: (inner ++ '}' :: rest)) :=
        unblanked_cons.mpr (by decide)
      have assigned := (@assigned?_eq_some "tags".toList _ _).mpr
        ⟨⟨gap, space, blank₁, blank₂, rfl⟩, unblanked⟩
      have noMap : after? ['{'] ('$' :: '{' :: (inner ++ '}' :: rest)) = none := rfl
      have opens : after? ['$', '{'] ('$' :: '{' :: (inner ++ '}' :: rest)) = some _ := rfl
      have closed := toBrace?_eq_some.mpr ⟨(rfl : inner ++ '}' :: rest = _), closes⟩
      simp only [terraformTags?, assigned, Option.bind_eq_bind, Option.bind_some, noMap, opens,
        closed, Option.pure_def]

theorem bicepTags?_eq_some {s tags : List Char} :
    bicepTags? s = some tags ↔ TagsAt .bicep s tags := by
  constructor
  · intro found
    simp only [bicepTags?, Option.bind_eq_bind, Option.bind_eq_some_iff, after?_eq_some,
      skipBlank_eq_iff, toBrace?_eq_some, Option.pure_def, Option.some.injEq, Prod.exists] at found
    obtain ⟨_, rfl, _, ⟨⟨space, blank, rfl⟩, _⟩, _, rest, ⟨rfl, closes⟩, rfl⟩ := found
    exact .property blank closes
  · intro stands
    cases stands with
    | @property space inner rest blank closes =>
      have key : after? "tags:".toList ("tags:".toList ++ (space ++ '{' :: (tags ++ '}' :: rest))) =
          some (space ++ '{' :: (tags ++ '}' :: rest)) := after?_eq_some.mpr rfl
      have opens : after? ['{'] ('{' :: (tags ++ '}' :: rest)) = some _ := rfl
      have closed := toBrace?_eq_some.mpr ⟨(rfl : tags ++ '}' :: rest = _), closes⟩
      simp only [bicepTags?, key, Option.bind_eq_bind, Option.bind_some, skipBlank_append blank,
        skipBlank_unblanked (brace_unblanked _), opens, closed, Option.pure_def]

/-- What is found is the map that stands first. -/
theorem tagMap?_eq_some {language : Language} {body tags : String} :
    tagMap? language body = some tags ↔
      First (fun _ => TagsAt language) none body.toList tags.toList := by
  have whole (found : Option (List Char)) :
      found.map String.ofList = some tags ↔ found = some tags.toList := by
    cases found with
    | none => simp
    | some s =>
      simp only [Option.map_some, Option.some.injEq]
      constructor
      · intro same
        rw [← same, String.toList_ofList]
      · intro same
        rw [same, String.ofList_toList]
  cases language with
  | terraform =>
    exact (whole _).trans (first_iff_find? (fun _ _ _ => terraformTags?_eq_some) _ _ _).symm
  | bicep => exact (whole _).trans (first_iff_find? (fun _ _ _ => bicepTags?_eq_some) _ _ _).symm

/-- No map stands anywhere in the body. -/
def Unmapped (language : Language) (body : String) : Prop :=
  ∀ u v tags, body.toList = u ++ v → ¬ TagsAt language v tags

theorem tagMap?_eq_none {language : Language} {body : String} :
    tagMap? language body = none ↔ Unmapped language body := by
  have nowhere {p : List Char → Option (List Char)}
      (reads : ∀ s tags, p s = some tags ↔ TagsAt language s tags) :
      (find? (fun _ => p) none body.toList).map String.ofList = none ↔ Unmapped language body := by
    rw [Option.map_eq_none_iff, find?_eq_none_iff]
    constructor
    · intro misses u v tags split stands
      have found := (reads v tags).mpr stands
      simp [misses u v split] at found
    · intro unmapped u v split
      rw [Option.eq_none_iff_forall_ne_some]
      intro tags found
      exact unmapped u v tags split ((reads v tags).mp found)
  cases language with
  | terraform => exact nowhere fun _ _ => terraformTags?_eq_some
  | bicep => exact nowhere fun _ _ => bicepTags?_eq_some

end InfraLint.Source
