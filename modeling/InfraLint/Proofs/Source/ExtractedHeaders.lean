import InfraLint.Proofs.Source.SearchPatterns

/-!
Which of the declarations of a text come with a block. The two lists are read by two scans, and the
scan for blocks leaves a whole block behind where the other goes on behind the header. Where headers
do not overlap, the one list is still among the other: a header is left out for what stands behind
it, or for standing in the body of a block.
-/
namespace InfraLint.Source
open Text Pattern

/- What stands between a header and the body: in Terraform the header ends with the brace. -/
inductive Lead : Language → List Char → Prop where
  | terraform : Lead .terraform []
  | bicep {space : List Char} (blank : AllBlank space) : Lead .bicep (space ++ ['{'])

/-- Behind the header an opening brace, and from `first` up to `last` the text to the brace that
closes it, with no more than two levels of braces in it. -/
def BodyAt (language : Language) (text : List Char) (h : Place Declaration) (first last : Nat) :
    Prop :=
  ∃ lead body rest, text.drop h.stop = lead ++ body ++ '}' :: rest ∧ Lead language lead ∧
    Balanced innerLevels body ∧ first = h.stop + lead.length ∧ last = first + body.length

/- The headers of a text, and those among them that blocks are extracted for. -/
structure Extracted (language : Language) (content : String)
    (headers kept : List (Place Declaration)) : Prop where
  occurrences : ∀ i j, (headerPattern language).TakesAt content.toList i j ↔
    ∃ h ∈ headers, h.start = i ∧ h.stop = j
  inOrder : headers.Pairwise Place.Before
  declared : declarations language content = headers.map (·.what)
  among : kept.Sublist headers
  blocks : (blocks language content).map (·.toDeclaration) = kept.map (·.what)
  exactly : ∀ h ∈ headers, h ∈ kept ↔ (∃ first last, BodyAt language content.toList h first last) ∧
    ∀ k ∈ kept, ∀ first last, BodyAt language content.toList k first last →
      ¬ (first ≤ h.start ∧ h.start < last)

variable {language : Language} {text : List Char}

theorem blockStarts_iff {s rest : List Char} {b : Block} :
    BlockStarts language s b rest ↔ ∃ lead body,
      DeclarationStarts language s b.toDeclaration (lead ++ body ++ '}' :: rest) ∧
        Lead language lead ∧ Balanced innerLevels body ∧ b.body = .ofList body := by
  constructor
  · rintro ⟨head, space, body, header, same, blank, balanced, whole, rfl⟩
    cases language with
    | terraform =>
      refine ⟨[], body, ?_, .terraform, balanced, whole⟩
      have start : DeclarationStarts .terraform _ _ (body ++ '}' :: rest) :=
        .terraform header same blank
      simpa using start
    | bicep =>
      refine ⟨space ++ ['{'], body, ?_, .bicep blank, balanced, whole⟩
      have start : DeclarationStarts .bicep _ _ (space ++ '{' :: body ++ '}' :: rest) :=
        .bicep header same
      simpa using start
  · rintro ⟨lead, body, start, opened, balanced, whole⟩
    cases opened with
    | terraform =>
      generalize behind : [] ++ body ++ '}' :: rest = t at start
      cases start with
      | @terraform _ head space _ header same blank =>
        exact ⟨head, space, body, header, same, blank, balanced, whole, by simp [← behind]⟩
    | @bicep space blank =>
      generalize behind : space ++ ['{'] ++ body ++ '}' :: rest = t at start
      cases start with
      | @bicep _ head _ header same =>
        exact ⟨head, space, body, header, same, blank, balanced, whole, by simp [← behind]⟩

/- A block starts where its header does, and ends behind the brace that closes its body. -/
structure HeaderOf (language : Language) (text : List Char) (b : Place Block)
    (h : Place Declaration) : Prop where
  stands : StandsAt (DeclarationStarts language) text h
  start : h.start = b.start
  what : h.what = b.what.toDeclaration
  ends : ∃ first last, BodyAt language text h first last ∧ b.stop = last + 1

theorem header_of_block {b : Place Block} (stands : StandsAt (BlockStarts language) text b) :
    ∃ h, HeaderOf language text b h := by
  obtain ⟨lead, body, start, opened, balanced, _⟩ := blockStarts_iff.mp stands.found
  obtain ⟨stop, behind, header⟩ := stands_of_starts (declarationStarts_consumes language) start
  refine ⟨_, header, rfl, rfl, _, _, ⟨lead, body, _, behind, opened, balanced, rfl, rfl⟩, ?_⟩
  have lengths := congrArg List.length behind
  simp only [List.length_drop, List.length_cons, List.length_append] at lengths
  have inside := stands.inside
  have inside' : stop ≤ text.length := header.inside
  dsimp only
  omega

theorem headers_of_found {found : List (Place Block)}
    (scan : FoundFrom (BlockStarts language) text 0 found) :
    ∃ header : Place Block → Place Declaration,
      ∀ b ∈ found, HeaderOf language text b (header b) := by
  have some (b : Place Block) : ∃ h, b ∈ found → HeaderOf language text b h := by
    by_cases member : b ∈ found
    · obtain ⟨h, header⟩ := header_of_block (scan.stand b member)
      exact ⟨h, fun _ => header⟩
    · exact ⟨⟨0, 0, b.what.toDeclaration⟩, fun absent => absurd absent member⟩
  choose header headerOf using some
  exact ⟨header, headerOf⟩

/- Where a header with a body stands, a block does. -/
theorem block_of_header {h : Place Declaration} {first last : Nat}
    (stands : StandsAt (DeclarationStarts language) text h)
    (body : BodyAt language text h first last) :
    ∃ b, StandsAt (BlockStarts language) text b ∧ b.start = h.start ∧ b.stop = last + 1 := by
  obtain ⟨lead, body, rest, behind, opened, balanced, rfl, rfl⟩ := body
  have start : BlockStarts language (text.drop h.start) ⟨h.what, .ofList body⟩ rest := by
    refine blockStarts_iff.mpr ⟨lead, body, ?_, opened, balanced, rfl⟩
    rw [← behind]
    exact stands.found
  obtain ⟨stop, left, block⟩ := stands_of_starts (blockStarts_consumes language) start
  refine ⟨_, block, rfl, ?_⟩
  have lengths := congrArg List.length behind
  rw [← left] at lengths
  simp only [List.length_drop, List.length_cons, List.length_append] at lengths
  have inside := stands.inside
  have inside' : stop ≤ text.length := block.inside
  dsimp only
  omega

theorem declarationStarts_head {s rest : List Char} {d : Declaration}
    (start : DeclarationStarts language s d rest) : s.head? = some 'r' := by
  obtain ⟨c, t, rfl, _⟩ := declarationStarts_opens start
  rfl

theorem lead_fresh {lead : List Char} (opened : Lead language lead) : 'r' ∉ lead := by
  cases opened with
  | terraform => simp
  | bicep blank =>
    intro member
    rcases List.mem_append.mp member with space | brace
    · exact absurd (blank 'r' space) (by decide)
    · simp at brace

/- The lead and the closing brace start nothing: a header that starts between the header of a block
   and the end of the block starts in the body. -/
theorem starts_in_body {k h : Place Declaration} {first last : Nat}
    (body : BodyAt language text k first last)
    (stands : StandsAt (DeclarationStarts language) text h) (behind : k.stop ≤ h.start)
    (inside : h.start < last + 1) : first ≤ h.start ∧ h.start < last := by
  obtain ⟨lead, body, rest, split, opened, _, rfl, rfl⟩ := body
  have here : (lead ++ body ++ '}' :: rest)[h.start - k.stop]? = some 'r' := by
    rw [← split, List.getElem?_drop, Nat.add_sub_of_le behind, ← List.head?_drop]
    exact declarationStarts_head stands.found
  constructor
  · by_contra before
    have short : h.start - k.stop < lead.length := by omega
    rw [List.append_assoc, List.getElem?_append_left short] at here
    exact lead_fresh opened (List.mem_of_getElem? here)
  · by_contra later
    have brace : h.start - k.stop = (lead ++ body).length := by
      rw [List.length_append]
      omega
    rw [brace, List.getElem?_append_right (Nat.le_refl _), Nat.sub_self] at here
    simp at here

theorem HeaderOf.stop_eq {b : Place Block} {h : Place Declaration} {first last : Nat}
    (header : HeaderOf language text b h) (stands : StandsAt (BlockStarts language) text b)
    (body : BodyAt language text h first last) : b.stop = last + 1 := by
  obtain ⟨b', stands', start, stop⟩ := block_of_header header.stands body
  have unique : Unique (BlockStarts language) := fun _ _ _ _ _ => blockStarts_unique
  obtain rfl := stands.eq_of_start unique stands' (header.start ▸ start.symm)
  exact stop

theorem BodyAt.stop_le {h : Place Declaration} {first last : Nat}
    (body : BodyAt language text h first last) : h.stop ≤ first := by
  obtain ⟨lead, _, _, _, _, _, rfl, _⟩ := body
  exact Nat.le_add_right _ _

theorem extracted_iff (apart : (headerPattern language).Apart text) {found : List (Place Block)}
    (scan : FoundFrom (BlockStarts language) text 0 found)
    {header : Place Block → Place Declaration}
    (headers : ∀ b ∈ found, HeaderOf language text b (header b)) {h : Place Declaration}
    (stands : StandsAt (DeclarationStarts language) text h) :
    h ∈ found.map header ↔ (∃ first last, BodyAt language text h first last) ∧
      ∀ k ∈ found.map header, ∀ first last, BodyAt language text k first last →
        ¬ (first ≤ h.start ∧ h.start < last) := by
  have consumes := declarationStarts_consumes language
  have met := headerPattern_met language
  simp only [List.mem_map, forall_exists_index, and_imp, forall_apply_eq_imp_iff₂]
  constructor
  · rintro ⟨b, member, rfl⟩
    obtain ⟨first, last, body, _⟩ := (headers b member).ends
    refine ⟨⟨first, last, body⟩, ?_⟩
    -- A block that starts behind another starts behind its end.
    rintro b' member' first' last' body' ⟨behind, inside⟩
    have length := (headers b' member').stands.start_lt_stop consumes
    have lead := body'.stop_le
    have order : b'.start < b.start := by
      rw [← (headers b member).start, ← (headers b' member').start]
      omega
    have before : b'.stop ≤ b.start :=
      scan.before (blockStarts_consumes language) member' member order
    rw [(headers b' member').stop_eq (scan.stand b' member') body',
      ← (headers b member).start] at before
    omega
  · rintro ⟨⟨first, last, body⟩, outside⟩
    obtain ⟨b', stands', start, _⟩ := block_of_header stands body
    rcases scan.complete b' stands' (Nat.zero_le _) with member | ⟨b, member, order, inner⟩
    · refine ⟨b', member, ?_⟩
      exact (headers b' member).stands.eq_of_start met.unique stands
        ((headers b' member).start.trans start)
    · exfalso
      obtain ⟨first', last', body', stop⟩ := (headers b member).ends
      have clear : (header b).stop ≤ h.start := by
        refine (apart_iff met consumes).mp apart _ _ (headers b member).stands stands ?_
        rw [(headers b member).start, ← start]
        exact order
      exact outside b member first' last' body'
        (starts_in_body body' stands clear (by rw [← stop, ← start]; exact inner))

/-- Where headers do not overlap, the blocks without their bodies are declarations, in the same
order: those with a body that closes, unless they start in the body of another block. -/
theorem blocks_among_declarations {content : String}
    (apart : (headerPattern language).Apart content.toList) :
    ∃ headers kept, Extracted language content headers kept := by
  have consumes := declarationStarts_consumes language
  have met := headerPattern_met language
  obtain ⟨headers, foundHeaders, declared⟩ :=
    places_of_scan consumes met.unique
      (scan_iff_declarations.mpr (Eq.refl (declarations language content)))
  obtain ⟨found, foundBlocks, extracted⟩ :=
    places_of_scan (blockStarts_consumes language) (fun _ _ _ _ _ => blockStarts_unique)
      (scan_iff_blocks.mpr (Eq.refl (blocks language content)))
  have isHeader := foundHeaders.mem_iff ((apart_iff met consumes).mp apart)
  obtain ⟨header, headerOf⟩ := headers_of_found foundBlocks
  refine ⟨headers, found.map header, ?_, foundHeaders.inOrder, declared.symm, ?_, ?_, ?_⟩
  · intro i j
    rw [takesAt_iff met consumes]
    constructor
    · rintro ⟨d, stands⟩
      exact ⟨⟨i, j, d⟩, (isHeader _).mpr stands, rfl, rfl⟩
    · rintro ⟨h, member, rfl, rfl⟩
      exact ⟨h.what, (isHeader h).mp member⟩
  · refine sublist_of_starts (foundHeaders.starts_lt consumes) ?_ ?_
    · refine List.pairwise_map.mpr
        ((foundBlocks.starts_lt (blockStarts_consumes language)).imp_of_mem ?_)
      intro b b' member member' order
      rwa [(headerOf b member).start, (headerOf b' member').start]
    · intro h kept
      obtain ⟨b, member, rfl⟩ := List.mem_map.mp kept
      exact (isHeader _).mpr (headerOf b member).stands
  · rw [← extracted, List.map_map, List.map_map]
    refine List.map_congr_left fun b member => ?_
    exact (headerOf b member).what.symm
  · intro h member
    exact extracted_iff apart foundBlocks headerOf ((isHeader h).mp member)

/- The second resource stands in the body of the first, the third is nested too deep. -/
def nestedResources : String :=
  "resource \"a\" \"b\" \x7bresource \"c\" \"d\" \x7b\x7d\x7d\n" ++
  "resource \"e\" \"f\" \x7b\x7b\x7b\x7b\x7d\x7d\x7d\x7d\n" ++
  "resource \"g\" \"h\" \x7b\x7d"

theorem nestedResources_blocks :
    (headerPattern .terraform).Apart nestedResources.toList ∧
      (∃ headers kept, Extracted .terraform nestedResources headers kept) ∧
      (declarations .terraform nestedResources).map (·.name) = ["b", "d", "f", "h"] ∧
      (blocks .terraform nestedResources).map (·.name) = ["b", "h"] := by
  have apart : (headerPattern .terraform).Apart nestedResources.toList := by decide +kernel
  exact ⟨apart, blocks_among_declarations apart, by decide +kernel, by decide +kernel⟩

end InfraLint.Source
