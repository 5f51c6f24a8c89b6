import InfraLint.Proofs.Source.DeclarationScan

/-!
Terraform sources that are nothing but resources, one after another. Nothing starts inside of a
resource, however deep its braces nest, so a scan goes from each resource to the next: it finds all
declarations, and as blocks the resources that nest no deeper than a block may.
-/
namespace InfraLint.Source
open Text

structure Piece where
  kind : String
  name : String
  head : List Char
  space : List Char
  body : List Char
  header : HeaderText ⟨.terraform, kind, name⟩ head
  blank : AllBlank space
  balanced : ∃ levels, Balanced levels body
  /-- Only the keyword is the word `resource` with white space behind it. -/
  once : ∀ u v, head ++ space ++ '{' :: body ++ ['}'] = u ++ v → Opens v → u = []

namespace Piece

def text (p : Piece) : List Char := p.head ++ p.space ++ '{' :: p.body ++ ['}']

def declaration (p : Piece) : Declaration := ⟨.terraform, p.kind, p.name⟩

def block (p : Piece) : Block := ⟨p.declaration, .ofList p.body⟩

def source (p : Piece) : String := .ofList p.text

def Shallow (p : Piece) : Prop := Balanced innerLevels p.body

instance (p : Piece) : Decidable p.Shallow := inferInstanceAs (Decidable (Balanced _ _))

end Piece

inductive Sequence : List Piece → List Char → Prop where
  | done {space : List Char} (blank : AllBlank space) : Sequence [] space
  | piece {p : Piece} {pieces : List Piece} {space s : List Char} (blank : AllBlank space)
      (behind : Sequence pieces s) : Sequence (p :: pieces) (space ++ (p.text ++ s))

theorem Piece.sequence (p : Piece) : Sequence [p] p.source.toList := by
  have blank : AllBlank [] := allBlank_of_all rfl
  have written : Sequence [p] ([] ++ (p.text ++ [])) := .piece blank (.done blank)
  rwa [List.nil_append, List.append_nil, ← String.toList_ofList (l := p.text)] at written

/-- A brace ends the keyword's white space, so what stands behind the brace does not matter. -/
theorem opens_closed {s t : List Char} (opens : Opens (s ++ '}' :: t)) : Opens (s ++ ['}']) := by
  obtain ⟨c, rest, split, blank⟩ := opens
  have fresh : '}' ∉ "resource".toList ++ [c] := by
    rw [List.mem_append, List.mem_singleton, not_or]
    refine ⟨by decide, ?_⟩
    rintro rfl
    exact absurd blank (by decide)
  have parts : s ++ '}' :: t = ("resource".toList ++ [c]) ++ rest := by
    rw [split, List.append_assoc, List.singleton_append]
  rcases List.append_eq_append_iff.mp parts with ⟨x, word, behind⟩ | ⟨x, rfl, _⟩
  · cases x with
    | nil =>
      rw [List.append_nil] at word
      exact ⟨c, ['}'], by rw [← word, List.append_assoc, List.singleton_append], blank⟩
    | cons d x =>
      obtain ⟨rfl, _⟩ := List.cons.inj behind
      exact absurd (word ▸ by simp) fresh
  · refine ⟨c, x ++ ['}'], ?_, blank⟩
    simp only [List.append_assoc, List.cons_append, List.nil_append]

section Scans

variable {α : Type} {starts : List Char → α → List Char → Prop} {s : List Char} {finds : List α}

theorem Piece.scan_rest (p : Piece) (opens : ∀ s a rest, starts s a rest → Opens s)
    {front back : List Char} (split : p.text = front ++ back) (some : front ≠ [])
    (behind : Scan starts s finds) : Scan starts (back ++ s) finds := by
  refine scan_append ?_ behind
  rintro u v rfl present a rest start
  obtain ⟨w, c, last⟩ := (List.eq_nil_or_concat v).resolve_left present
  obtain rfl : v = w ++ [c] := last.trans List.concat_eq_append
  have ends : (p.head ++ p.space ++ '{' :: p.body) ++ ['}'] = (front ++ (u ++ w)) ++ [c] := by
    simpa [text] using split
  obtain rfl : '}' = c := by simpa using (List.append_inj' ends rfl).2
  have opened := opens _ _ _ start
  rw [List.append_assoc, List.singleton_append] at opened
  have none := p.once (front ++ u) (w ++ ['}']) (by rw [← text, split, List.append_assoc])
    (opens_closed opened)
  exact some (List.append_eq_nil_iff.mp none).1

theorem Piece.scan_over (p : Piece) (opens : ∀ s a rest, starts s a rest → Opens s)
    (nothing : ∀ a rest, ¬ starts (p.text ++ s) a rest) (behind : Scan starts s finds) :
    Scan starts (p.text ++ s) finds := by
  cases split : p.text with
  | nil => exact absurd split (by simp [text])
  | cons c tail =>
    rw [split] at nothing
    exact .passed nothing (p.scan_rest opens split (List.cons_ne_nil c []) behind)

end Scans

namespace Piece

theorem declares (p : Piece) (s : List Char) :
    DeclarationStarts .terraform (p.text ++ s) p.declaration (p.body ++ '}' :: s) := by
  have parts : p.text ++ s = p.head ++ p.space ++ '{' :: (p.body ++ '}' :: s) := by simp [text]
  rw [parts]
  exact .terraform p.header rfl p.blank

/-- The header is read in one way only, and the brace that matches is the last one. -/
theorem blockStarts_iff (p : Piece) {s rest : List Char} {b : Block} :
    BlockStarts .terraform (p.text ++ s) b rest ↔ p.Shallow ∧ b = p.block ∧ rest = s := by
  constructor
  · rintro ⟨head, space, body, header, same, blank, shallow, whole, split⟩
    have skips {w t : List Char} (blank : AllBlank w) : skipBlank (w ++ '{' :: t) = '{' :: t := by
      rw [skipBlank_append blank, skipBlank_unblanked (unblanked_cons.mpr (by decide))]
    have written : header? .terraform (p.text ++ s) =
        some (p.declaration, '{' :: (p.body ++ '}' :: s)) :=
      header?_terraform.mpr ⟨p.head, p.space ++ '{' :: (p.body ++ '}' :: s), p.header, rfl,
        by simp [text], skips p.blank⟩
    have read : header? .terraform (p.text ++ s) =
        some (b.toDeclaration, '{' :: (body ++ '}' :: rest)) :=
      header?_terraform.mpr ⟨head, space ++ '{' :: (body ++ '}' :: rest), header, same,
        by simp [split], skips blank⟩
    simp only [written, Option.some.injEq, Prod.mk.injEq, List.cons.injEq, true_and] at read
    obtain ⟨declared, inner⟩ := read
    obtain ⟨_, balanced⟩ := p.balanced
    obtain ⟨rfl, rfl⟩ := balanced_unique shallow balanced inner.symm
    refine ⟨shallow, ?_, rfl⟩
    obtain ⟨d, written⟩ := b
    obtain rfl : p.declaration = d := declared
    rw [block, ← whole]
  · rintro ⟨shallow, rfl, rfl⟩
    exact ⟨p.head, p.space, p.body, p.header, rfl, p.blank, shallow, rfl, by simp [text]⟩

end Piece

/- By induction on the sequence: what has been scanned is a piece and the white space in front of
   it, and the scan of the rest finds what the rest alone holds. -/
theorem scan_declarations {pieces : List Piece} {s : List Char} (written : Sequence pieces s) :
    Scan (DeclarationStarts .terraform) s (pieces.map Piece.declaration) := by
  have opens : ∀ s d rest, DeclarationStarts .terraform s d rest → Opens s :=
    fun _ _ _ => declarationStarts_opens
  induction written with
  | done blank => simpa using scan_blanks opens blank .done
  | @piece p pieces space s blank _ ih =>
    refine scan_blanks opens blank (.found (p.declares s) ?_)
    have split : p.text = (p.head ++ p.space ++ ['{']) ++ (p.body ++ ['}']) := by
      simp [Piece.text]
    simpa using p.scan_rest opens split (by simp) ih

theorem scan_blocks {pieces : List Piece} {s : List Char} (written : Sequence pieces s) :
    Scan (BlockStarts .terraform) s ((pieces.filter Piece.Shallow).map Piece.block) := by
  have opens : ∀ s b rest, BlockStarts .terraform s b rest → Opens s :=
    fun _ _ _ => blockStarts_opens
  induction written with
  | done blank => simpa using scan_blanks opens blank .done
  | @piece p pieces space s blank _ ih =>
    refine scan_blanks opens blank ?_
    by_cases shallow : p.Shallow
    · rw [List.filter_cons_of_pos (by simpa using shallow), List.map_cons]
      exact .found (p.blockStarts_iff.mpr ⟨shallow, rfl, rfl⟩) ih
    · rw [List.filter_cons_of_neg (by simpa using shallow)]
      refine p.scan_over opens ?_ ih
      intro b rest start
      exact shallow (p.blockStarts_iff.mp start).1

variable {pieces : List Piece} {content : String}

theorem declarations_sequence (written : Sequence pieces content.toList) :
    declarations .terraform content = pieces.map Piece.declaration :=
  scan_iff_declarations.mp (scan_declarations written)

theorem blocks_sequence (written : Sequence pieces content.toList) :
    blocks .terraform content = (pieces.filter Piece.Shallow).map Piece.block :=
  scan_iff_blocks.mp (scan_blocks written)

end InfraLint.Source
