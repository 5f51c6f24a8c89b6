import InfraLint.Proofs.Source.Braces
import InfraLint.Proofs.Source.TagPlaces

/-!
Bodies whose `tags` are set by reference: a variable or a local value, alone or as an argument of a
call. Such an argument is no map itself. What is taken for the map of its body stands somewhere
else, in front of the argument or behind its equals sign.
-/
namespace InfraLint.Source
open Text

/- Names with points between them, and indexes. -/
def IsPath (path : List Char) : Prop :=
  path ≠ [] ∧ path.all (fun c => isWord c || ".-[]*\"".toList.contains c) = true

inductive Reference : List Char → Prop where
  | variablePath {path : List Char} (isPath : IsPath path) : Reference ("var.".toList ++ path)
  | localPath {path : List Char} (isPath : IsPath path) : Reference ("local.".toList ++ path)
  | call {name front argument back : List Char} (function : Word name)
      (reference : Reference argument) :
      Reference (name ++ '(' :: (front ++ (argument ++ (back ++ [')']))))

theorem reference_head {value : List Char} (reference : Reference value) :
    ∃ c rest, value = c :: rest ∧ isWord c = true := by
  cases reference with
  | variablePath => exact ⟨_, _, rfl, by decide⟩
  | localPath => exact ⟨_, _, rfl, by decide⟩
  | @call name front argument back function _ =>
    obtain ⟨c, word, rfl⟩ := List.exists_cons_of_ne_nil function.1
    exact ⟨c, _, rfl, function.2 c List.mem_cons_self⟩

/-- However deep the calls nest, the root of a reference stands in the text. -/
theorem reference_root {value : List Char} (reference : Reference value) :
    ∃ root u v, (root = "var.".toList ∨ root = "local.".toList) ∧ value = u ++ (root ++ v) := by
  induction reference with
  | @variablePath path => exact ⟨_, [], path, Or.inl rfl, rfl⟩
  | @localPath path => exact ⟨_, [], path, Or.inr rfl, rfl⟩
  | @call name front argument back _ _ ih =>
    obtain ⟨root, u, v, isRoot, inside⟩ := ih
    refine ⟨root, name ++ '(' :: (front ++ u), v ++ (back ++ [')']), isRoot, ?_⟩
    rw [inside]
    simp

/-- A body with a reference behind `tags =`. -/
structure ReferredTags where
  front : List Char
  gap : List Char
  space : List Char
  value : List Char
  back : List Char
  gap_blank : AllBlank gap
  space_blank : AllBlank space
  reference : Reference value

namespace ReferredTags

def behind (w : ReferredTags) : List Char := w.value ++ w.back

def argument (w : ReferredTags) : List Char :=
  "tags".toList ++ (w.gap ++ '=' :: (w.space ++ w.behind))

def body (w : ReferredTags) : List Char := w.front ++ w.argument

/- The argument belongs to the resource: it stands outside of all inner blocks, and nothing is in
   front of its name but white space. -/
structure IsOwn (w : ReferredTags) : Prop where
  outside : braceLevel w.front = 0
  apart : w.front.getLast?.all isBlank = true

/- A map that does not belong to the argument. -/
def Strays (w : ReferredTags) : Prop :=
  (∃ u v tags, v ≠ [] ∧ w.front = u ++ v ∧ TagsAt .terraform (v ++ w.argument) tags) ∨
    ∃ u v tags, w.behind = u ++ v ∧ TagsAt .terraform v tags

end ReferredTags

theorem TagsAt.head {s tags : List Char} (stands : TagsAt .terraform s tags) :
    ∃ rest, s = 't' :: rest := by
  cases stands with
  | map => exact ⟨_, rfl⟩
  | interpolation => exact ⟨_, rfl⟩

/-- Behind the equals sign of a map stands a brace or a dollar sign. -/
theorem TagsAt.value {gap space s tags : List Char} (blank₁ : AllBlank gap)
    (blank₂ : AllBlank space) (unblanked : Unblanked s)
    (stands : TagsAt .terraform ("tags".toList ++ (gap ++ '=' :: (space ++ s))) tags) :
    ∃ c rest, s = c :: rest ∧ (c = '{' ∨ c = '$') := by
  have assigned : assigned? "tags".toList ("tags".toList ++ (gap ++ '=' :: (space ++ s))) =
      some s := assigned?_eq_some.mpr ⟨⟨gap, space, blank₁, blank₂, rfl⟩, unblanked⟩
  have found := terraformTags?_eq_some.mpr stands
  simp only [terraformTags?, assigned, Option.bind_eq_bind, Option.bind_some] at found
  split at found
  · rename_i rest opens
    exact ⟨'{', rest, after?_eq_some.mp opens, Or.inl rfl⟩
  · obtain ⟨rest, opens, _⟩ := Option.bind_eq_some_iff.mp found
    exact ⟨'$', '{' :: rest, after?_eq_some.mp opens, Or.inr rfl⟩

/-- A text that starts with `c` starts behind a front without that character. -/
theorem starts_behind {c : Char} {l m x s : List Char} (fresh : c ∉ l)
    (split : l ++ m = x ++ c :: s) : ∃ y, m = y ++ c :: s := by
  rcases List.append_eq_append_iff.mp split with ⟨y, _, rest⟩ | ⟨y, rfl, rest⟩
  · exact ⟨y, rest⟩
  · cases y with
    | nil => exact ⟨[], rest.symm⟩
    | cons d y =>
      obtain ⟨rfl, _⟩ := List.cons.inj rest
      simp at fresh

namespace ReferredTags

variable {w : ReferredTags}

theorem argument_unmapped (w : ReferredTags) (tags : List Char) :
    ¬ TagsAt .terraform w.argument tags := by
  obtain ⟨c, rest, value, word⟩ := reference_head w.reference
  have behind : w.behind = c :: (rest ++ w.back) := by
    rw [ReferredTags.behind, value, List.cons_append]
  have unblanked : Unblanked w.behind := by
    rw [behind, unblanked_cons]
    exact word_not_blank word
  intro stands
  obtain ⟨d, _, opens, isOpening⟩ := stands.value w.gap_blank w.space_blank unblanked
  obtain ⟨rfl, _⟩ := List.cons.inj (behind.symm.trans opens)
  rcases isOpening with rfl | rfl
  · revert word
    decide
  · revert word
    decide

theorem tag_not_mem_link (w : ReferredTags) : 't' ∉ "ags".toList ++ (w.gap ++ '=' :: w.space) := by
  have unblank : isBlank 't' = false := by decide
  simp only [List.mem_append, List.mem_cons, not_or]
  refine ⟨by decide, ?_, by decide, ?_⟩
  · intro member
    simp [w.gap_blank _ member] at unblank
  · intro member
    simp [w.space_blank _ member] at unblank

/-- Every map of the body is one that strays. -/
theorem strays_of_mapped {u v tags : List Char} (split : w.body = u ++ v)
    (stands : TagsAt .terraform v tags) : w.Strays := by
  obtain ⟨rest, rfl⟩ := stands.head
  rcases List.append_eq_append_iff.mp split with ⟨x, _, inside⟩ | ⟨x, front, inside⟩
  · cases x with
    | nil =>
      rw [List.nil_append] at inside
      exact absurd (inside ▸ stands) (w.argument_unmapped tags)
    | cons c x =>
      -- a map that starts further on in the argument starts behind its equals sign
      have parts : w.argument =
          't' :: (("ags".toList ++ (w.gap ++ '=' :: w.space)) ++ w.behind) := by
        simp [argument]
      have later := (List.cons.inj (parts.symm.trans inside)).2
      obtain ⟨y, behind⟩ := starts_behind w.tag_not_mem_link later
      exact Or.inr ⟨y, _, tags, behind, stands⟩
  · cases x with
    | nil =>
      rw [inside, List.nil_append] at stands
      exact absurd stands (w.argument_unmapped tags)
    | cons c x => exact Or.inl ⟨u, c :: x, tags, List.cons_ne_nil c x, front, inside ▸ stands⟩

end ReferredTags
end InfraLint.Source
