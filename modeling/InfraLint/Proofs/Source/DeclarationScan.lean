import InfraLint.Proofs.Source.BlockScan

/-!
The declarations of a source text as a scan. A declaration starts where a header stands, in
Terraform with white space or none and an opening brace behind it. Wherever a declaration or a
block starts, the word `resource` stands with white space behind it.
-/
namespace InfraLint.Source
open Text

/-- A declaration stands at the front of a text, and what is behind it is the rest. -/
inductive DeclarationStarts : Language → List Char → Declaration → List Char → Prop where
  | terraform {d : Declaration} {head space rest : List Char} (text : HeaderText d head)
      (same : d.language = .terraform) (blank : AllBlank space) :
      DeclarationStarts .terraform (head ++ space ++ '{' :: rest) d rest
  | bicep {d : Declaration} {head rest : List Char} (text : HeaderText d head)
      (same : d.language = .bicep) : DeclarationStarts .bicep (head ++ rest) d rest

theorem declaration?_eq_some {language : Language} {s rest : List Char} {d : Declaration} :
    declaration? language s = some (d, rest) ↔ DeclarationStarts language s d rest := by
  cases language with
  | terraform =>
    simp only [declaration?, Option.bind_eq_bind, Option.bind_eq_some_iff, Prod.exists,
      header?_terraform, Option.pure_def, Option.some.injEq, Prod.mk.injEq, after?_eq_some,
      skipBlank_eq_iff]
    constructor
    · rintro ⟨d, _, ⟨head, _, text, same, rfl, ⟨space, blank, rfl⟩, _⟩, _, rfl, rfl, rfl⟩
      rw [← List.append_assoc]
      exact .terraform text same blank
    · intro start
      cases start with
      | @terraform _ head space rest text same blank =>
        exact ⟨d, '{' :: rest, ⟨head, space ++ '{' :: rest, text, same, by simp,
          ⟨space, blank, rfl⟩, unblanked_cons.mpr (by decide)⟩, rest, rfl, rfl, rfl⟩
  | bicep =>
    simp only [declaration?, Option.bind_eq_bind, Option.bind_eq_some_iff, Prod.exists,
      header?_bicep, Option.pure_def, Option.some.injEq, Prod.mk.injEq]
    constructor
    · rintro ⟨d, _, ⟨head, text, same, rfl⟩, rfl, rfl⟩
      exact .bicep text same
    · intro start
      cases start with
      | @bicep _ head rest text same => exact ⟨d, rest, ⟨head, text, same, rfl⟩, rfl, rfl⟩

theorem declarationStarts_consumes (language : Language) :
    Consumes (DeclarationStarts language) := by
  intro s d rest start
  cases start with
  | @terraform _ head space _ text =>
    obtain ⟨tail, rfl⟩ := headerText_cons text
    exact ⟨'r', tail ++ space ++ ['{'], by simp⟩
  | bicep text =>
    obtain ⟨tail, rfl⟩ := headerText_cons text
    exact ⟨'r', tail, by simp⟩

theorem declarationStarts_unique (language : Language) : Unique (DeclarationStarts language) := by
  intro s d d' rest rest' start start'
  have same := (declaration?_eq_some.mpr start).symm.trans (declaration?_eq_some.mpr start')
  simpa using same

theorem scan_iff_declarations {language : Language} {content : String}
    {found : List Declaration} :
    Scan (DeclarationStarts language) content.toList found ↔
      declarations language content = found :=
  scan_iff_findAll (fun _ _ _ => declaration?_eq_some) (declarationStarts_consumes language) _ found

/-- The text starts with the word `resource`, and goes on with white space. -/
def Opens (s : List Char) : Prop :=
  ∃ c rest, s = "resource".toList ++ c :: rest ∧ isBlank c = true

theorem opens_iff {s : List Char} :
    Opens s ↔ (after? "resource".toList s).any (·.head?.any isBlank) = true := by
  simp only [Option.any_eq_true, after?_eq_some]
  constructor
  · rintro ⟨c, rest, rfl, blank⟩
    exact ⟨c :: rest, rfl, c, rfl, blank⟩
  · rintro ⟨_, rfl, c, first, blank⟩
    obtain ⟨rest, rfl⟩ := List.head?_eq_some_iff.mp first
    exact ⟨c, rest, rfl, blank⟩

instance (s : List Char) : Decidable (Opens s) := decidable_of_iff _ opens_iff.symm

theorem not_opens_of_blank {c : Char} {s : List Char} (blank : isBlank c = true) :
    ¬ Opens (c :: s) := by
  rintro ⟨d, rest, split, _⟩
  obtain rfl : c = 'r' := (List.cons.inj split).1
  revert blank
  decide

theorem opens_of_header {d : Declaration} {head : List Char} (text : HeaderText d head)
    (s : List Char) : Opens (head ++ s) := by
  have gapOpens {first : List Char} (gap : Gap first) (s : List Char) :
      Opens ("resource".toList ++ (first ++ s)) := by
    obtain ⟨some, blank⟩ := gap
    cases first with
    | nil => exact absurd rfl some
    | cons c first => exact ⟨c, first ++ s, rfl, (allBlank_cons.mp blank).1⟩
  cases text with
  | terraform gap =>
    simp only [List.append_assoc]
    exact gapOpens gap _
  | bicep gap =>
    simp only [List.append_assoc]
    exact gapOpens gap _

theorem blockStarts_opens {language : Language} {s rest : List Char} {b : Block}
    (start : BlockStarts language s b rest) : Opens s := by
  obtain ⟨head, space, body, text, _, _, _, _, rfl⟩ := start
  simp only [List.append_assoc]
  exact opens_of_header text _

theorem declarationStarts_opens {language : Language} {s rest : List Char} {d : Declaration}
    (start : DeclarationStarts language s d rest) : Opens s := by
  cases start with
  | terraform text =>
    rw [List.append_assoc]
    exact opens_of_header text _
  | bicep text => exact opens_of_header text _

/-- White space is passed over wherever only the word can start something. -/
theorem scan_blanks {α : Type} {starts : List Char → α → List Char → Prop} {s : List Char}
    {finds : List α} (opens : ∀ s a rest, starts s a rest → Opens s) {space : List Char}
    (blank : AllBlank space) (behind : Scan starts s finds) : Scan starts (space ++ s) finds := by
  refine scan_append ?_ behind
  rintro u v rfl some a rest start
  obtain ⟨c, v, rfl⟩ := List.exists_cons_of_ne_nil some
  exact not_opens_of_blank (blank c (by simp)) (opens _ _ _ start)

/-- A source with one resource, and white space behind it, has the block of that resource alone. -/
theorem blocks_single {d : Declaration} {head space body trail : List Char}
    (header : HeaderText d head) (blank₁ : AllBlank space) (balanced : Balanced innerLevels body)
    (blank₂ : AllBlank trail) :
    blocks d.language (.ofList (head ++ space ++ '{' :: body ++ '}' :: trail)) =
      [⟨d, .ofList body⟩] := by
  have start : BlockStarts d.language (head ++ space ++ '{' :: body ++ '}' :: trail)
      ⟨d, .ofList body⟩ trail := ⟨head, space, body, header, rfl, blank₁, balanced, rfl, rfl⟩
  refine scan_iff_blocks.mp ?_
  rw [String.toList_ofList]
  refine .found start ?_
  simpa using scan_blanks (fun _ _ _ => blockStarts_opens) blank₂ .done

end InfraLint.Source
