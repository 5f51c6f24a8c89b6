import InfraLint.Proofs.Source.Braces
import InfraLint.Proofs.Source.Header
import InfraLint.Proofs.Text.LeftToRight

/-!
The blocks of a source text as a scan that counts braces. A block starts where a header stands,
white space behind it or none, and then a brace whose matching brace comes before a third further
level opens. The blocks found are those of the scan, for every text.
-/
namespace InfraLint.Source
open Text

/-- A block stands at the front of `s`, and `rest` begins behind its last brace. -/
def BlockStarts (language : Language) (s : List Char) (b : Block) (rest : List Char) : Prop :=
  ∃ head space body, HeaderText b.toDeclaration head ∧ b.language = language ∧ AllBlank space ∧
    Balanced 2 body ∧ b.body = .ofList body ∧ s = head ++ space ++ '{' :: body ++ '}' :: rest

theorem headerText_cons {d : Declaration} {head : List Char} (text : HeaderText d head) :
    ∃ tail, head = 'r' :: tail := by
  cases text <;> exact ⟨_, rfl⟩

theorem blockStarts_consumes (language : Language) : Consumes (BlockStarts language) := by
  intro s b rest h
  obtain ⟨head, space, body, text, _, _, _, _, rfl⟩ := h
  obtain ⟨tail, rfl⟩ := headerText_cons text
  exact ⟨'r', tail ++ space ++ '{' :: body ++ ['}'], by simp⟩

theorem braced?_skipBlank (s : List Char) : braced? (skipBlank s) = braced? s := by
  simp only [braced?, skipBlank_unblanked (unblanked_skipBlank s)]

/-- White space in front of the brace is passed over in both languages. -/
theorem header?_then_braced? {language : Language} {s : List Char} {d : Declaration}
    {taken : List Char × List Char} :
    (∃ r, header? language s = some (d, r) ∧ braced? r = some taken) ↔
      ∃ head behind, HeaderText d head ∧ d.language = language ∧ s = head ++ behind ∧
        braced? behind = some taken := by
  cases language with
  | terraform =>
    simp only [header?_terraform]
    constructor
    · intro h
      obtain ⟨r, ⟨head, behind, text, same, split, rfl⟩, braces⟩ := h
      exact ⟨head, behind, text, same, split, braced?_skipBlank behind ▸ braces⟩
    · intro h
      obtain ⟨head, behind, text, same, split, braces⟩ := h
      refine ⟨_, ⟨head, behind, text, same, split, rfl⟩, ?_⟩
      rw [braced?_skipBlank, braces]
  | bicep =>
    simp only [header?_bicep]
    constructor
    · intro h
      obtain ⟨r, ⟨head, text, same, split⟩, braces⟩ := h
      exact ⟨head, r, text, same, split, braces⟩
    · intro h
      obtain ⟨head, behind, text, same, split, braces⟩ := h
      exact ⟨behind, ⟨head, text, same, split⟩, braces⟩

theorem braced?_eq_some {s body rest : List Char} :
    braced? s = some (body, rest) ↔
      ∃ space, AllBlank space ∧ Balanced innerLevels body ∧
        s = space ++ '{' :: body ++ '}' :: rest := by
  have closes (t : List Char) : closing? innerLevels 0 t = some (body, rest) ↔
      t = body ++ '}' :: rest ∧ Balanced innerLevels body := by
    rw [balanced_iff_closesFrom]
    exact closing?_eq_some (Nat.zero_le innerLevels)
  simp only [braced?, Option.bind_eq_bind, Option.bind_eq_some_iff, after?_eq_some,
    skipBlank_eq_iff, closes]
  constructor
  · intro h
    obtain ⟨_, ⟨⟨space, blank, rfl⟩, _⟩, rfl, balanced⟩ := h
    exact ⟨space, blank, balanced, by simp⟩
  · intro h
    obtain ⟨space, blank, balanced, rfl⟩ := h
    exact ⟨body ++ '}' :: rest, ⟨⟨space, blank, by simp⟩, unblanked_cons.mpr (by decide)⟩, rfl,
      balanced⟩

theorem block?_eq_some {language : Language} {s rest : List Char} {b : Block} :
    block? language s = some (b, rest) ↔ BlockStarts language s b rest := by
  have parts : block? language s = some (b, rest) ↔ ∃ body,
      (∃ r, header? language s = some (b.toDeclaration, r) ∧ braced? r = some (body, rest)) ∧
        b.body = .ofList body := by
    obtain ⟨d, text⟩ := b
    simp only [block?, Option.bind_eq_bind, Option.bind_eq_some_iff, Option.pure_def,
      Option.some.injEq, Prod.exists, Prod.mk.injEq, Block.mk.injEq]
    constructor
    · intro h
      obtain ⟨_, r, header, body, _, braces, ⟨rfl, rfl⟩, rfl⟩ := h
      exact ⟨body, ⟨r, header, braces⟩, rfl⟩
    · intro h
      obtain ⟨body, ⟨r, header, braces⟩, rfl⟩ := h
      exact ⟨d, r, header, body, rest, braces, ⟨rfl, rfl⟩, rfl⟩
  simp only [parts, header?_then_braced?]
  simp only [braced?_eq_some]
  constructor
  · intro h
    obtain ⟨body, ⟨head, _, text, same, rfl, space, blank, balanced, rfl⟩, whole⟩ := h
    exact ⟨head, space, body, text, same, blank, balanced, whole, by simp⟩
  · intro h
    obtain ⟨head, space, body, text, same, blank, balanced, whole, rfl⟩ := h
    exact ⟨body, ⟨head, space ++ '{' :: body ++ '}' :: rest, text, same, by simp, space, blank,
      balanced, rfl⟩, whole⟩

theorem blockStarts_unique {language : Language} {s rest rest' : List Char} {b b' : Block}
    (start : BlockStarts language s b rest) (start' : BlockStarts language s b' rest') :
    b = b' ∧ rest = rest' := by
  have same := (block?_eq_some.mpr start).symm.trans (block?_eq_some.mpr start')
  simpa using same

theorem scan_iff_blocks {language : Language} {content : String} {found : List Block} :
    Scan (BlockStarts language) content.toList found ↔ blocks language content = found :=
  scan_iff_findAll (fun _ _ _ => block?_eq_some) (blockStarts_consumes language) _ found

end InfraLint.Source
