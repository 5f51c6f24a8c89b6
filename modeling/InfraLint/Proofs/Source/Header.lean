import InfraLint.Proofs.Text.Blank
import InfraLint.Proofs.Text.Until
import InfraLint.Source.Declaration

/-!
Headers of resources as they are written, from the word `resource` to the quote behind the name
in Terraform and to the equals sign in Bicep. `header?` reads exactly these.
-/
namespace InfraLint.Source
open Text

def Gap (w : List Char) : Prop := w ≠ [] ∧ AllBlank w

def Quotable (q : Char) (t : List Char) : Prop := t ≠ [] ∧ q ∉ t

/-- A header, and the declaration that it makes. -/
inductive HeaderText : Declaration → List Char → Prop where
  | terraform {first kind second name : List Char} (gap₁ : Gap first)
      (kindText : Quotable '"' kind) (gap₂ : Gap second) (nameText : Quotable '"' name) :
      HeaderText ⟨.terraform, .ofList kind, .ofList name⟩
        ("resource".toList ++ first ++ '"' :: kind ++ '"' :: second ++ '"' :: name ++ ['"'])
  | bicep {first name second kind space : List Char} (gap₁ : Gap first) (nameWord : Word name)
      (gap₂ : Gap second) (kindText : Quotable '\'' kind) (blank : AllBlank space) :
      HeaderText ⟨.bicep, .ofList kind, .ofList name⟩
        ("resource".toList ++ first ++ name ++ second ++ '\'' :: kind ++ '\'' :: space ++ ['='])

theorem word?_append {w r : List Char} (word : Word w)
    (stop : ∀ c, r.head? = some c → isWord c = false) : word? (w ++ r) = some (w, r) := by
  obtain ⟨taken, left⟩ := takeWhile_append_stop word.2 stop
  cases w with
  | nil => exact absurd rfl word.1
  | cons c w => simp only [word?, taken, left]

theorem word?_eq_some {s w r : List Char} (h : word? s = some (w, r)) : s = w ++ r ∧ Word w := by
  have words : ∀ c ∈ s.takeWhile isWord, isWord c = true :=
    List.all_eq_true.mp List.all_takeWhile
  unfold word? at h
  split at h
  · simp at h
  · rename_i some
    simp only [Option.some.injEq, Prod.mk.injEq] at h
    obtain ⟨rfl, rfl⟩ := h
    exact ⟨List.takeWhile_append_dropWhile.symm, some, words⟩

theorem gap_stops_word {w r : List Char} (gap : Gap w) :
    ∀ c, (w ++ r).head? = some c → isWord c = false := by
  obtain ⟨some, blank⟩ := gap
  intro c head
  cases w with
  | nil => exact absurd rfl some
  | cons d w =>
    obtain rfl : d = c := by simpa using head
    exact blank_not_word (allBlank_cons.mp blank).1

theorem word_unblanked {w r : List Char} (word : Word w) : Unblanked (w ++ r) := by
  obtain ⟨some, words⟩ := word
  cases w with
  | nil => exact absurd rfl some
  | cons c w => exact unblanked_cons.mpr (word_not_blank (words c (by simp)))

theorem after?_append (w s : List Char) : after? w (w ++ s) = some s :=
  after?_eq_some.mpr rfl

theorem blank?_append {w s : List Char} (gap : Gap w) (stop : Unblanked s) :
    blank? (w ++ s) = some s :=
  blank?_eq_some.mpr ⟨⟨w, gap.1, gap.2, rfl⟩, stop⟩

theorem quoted?_append {q : Char} {t : List Char} (text : Quotable q t) (s : List Char) :
    quoted? q (q :: (t ++ q :: s)) = some (t, s) :=
  quoted?_eq_some.mpr ⟨rfl, text⟩

theorem header?_terraform {s r : List Char} {d : Declaration} :
    header? .terraform s = some (d, r) ↔
      ∃ head behind, HeaderText d head ∧ d.language = .terraform ∧ s = head ++ behind ∧
        skipBlank behind = r := by
  constructor
  · simp only [header?, Option.bind_eq_bind, Option.bind_eq_some_iff, after?_eq_some,
      blank?_eq_some, quoted?_eq_some, Option.pure_def, Option.some.injEq, Prod.exists,
      Prod.mk.injEq]
    intro h
    obtain ⟨_, rfl, _, ⟨⟨first, some₁, blank₁, rfl⟩, _⟩, kind, _, ⟨rfl, kindText⟩, _,
      ⟨⟨second, some₂, blank₂, rfl⟩, _⟩, name, behind, ⟨rfl, nameText⟩, rfl, rfl⟩ := h
    refine ⟨_, behind, .terraform ⟨some₁, blank₁⟩ kindText ⟨some₂, blank₂⟩ nameText, rfl, ?_, rfl⟩
    simp
  · intro h
    obtain ⟨head, behind, text, terraform, rfl, rfl⟩ := h
    cases text with
    | bicep => cases terraform
    | @terraform first kind second name gap₁ kindText gap₂ nameText =>
      have quote (t : List Char) : Unblanked ('"' :: t) := unblanked_cons.mpr (by decide)
      simp only [List.append_assoc, List.cons_append, List.nil_append, header?, after?_append,
        blank?_append gap₁ (quote _), quoted?_append kindText, blank?_append gap₂ (quote _),
        quoted?_append nameText, Option.bind_eq_bind, Option.bind_some, Option.pure_def]

theorem header?_bicep {s r : List Char} {d : Declaration} :
    header? .bicep s = some (d, r) ↔
      ∃ head, HeaderText d head ∧ d.language = .bicep ∧ s = head ++ r := by
  constructor
  · simp only [header?, Option.bind_eq_bind, Option.bind_eq_some_iff, after?_eq_some,
      blank?_eq_some, quoted?_eq_some, skipBlank_eq_iff, Option.pure_def, Option.some.injEq,
      Prod.exists, Prod.mk.injEq]
    intro h
    obtain ⟨_, rfl, _, ⟨⟨first, some₁, blank₁, rfl⟩, _⟩, name, _, taken, _,
      ⟨⟨second, some₂, blank₂, rfl⟩, _⟩, kind, _, ⟨rfl, kindText⟩, behind,
      ⟨⟨space, blank₃, rfl⟩, _⟩, rfl, rfl⟩ := h
    obtain ⟨rfl, nameWord⟩ := word?_eq_some taken
    refine ⟨_, .bicep ⟨some₁, blank₁⟩ nameWord ⟨some₂, blank₂⟩ kindText blank₃, rfl, ?_⟩
    simp
  · intro h
    obtain ⟨head, text, bicep, rfl⟩ := h
    cases text with
    | terraform => cases bicep
    | @bicep first name second kind space gap₁ nameWord gap₂ kindText blank =>
      have quote (t : List Char) : Unblanked ('\'' :: t) := unblanked_cons.mpr (by decide)
      have equals : after? ['='] (skipBlank (space ++ '=' :: r)) = some r := by
        rw [skipBlank_append blank, skipBlank_unblanked (unblanked_cons.mpr (by decide))]
        exact after?_append ['='] r
      simp only [List.append_assoc, List.cons_append, List.nil_append, header?, after?_append,
        blank?_append gap₁ (word_unblanked nameWord), word?_append nameWord (gap_stops_word gap₂),
        blank?_append gap₂ (quote _), quoted?_append kindText, equals, Option.bind_eq_bind,
        Option.bind_some, Option.pure_def]

end InfraLint.Source
