import InfraLint.Proofs.Pattern.Places
import InfraLint.Proofs.Source.AssignmentScan
import InfraLint.Proofs.Source.BlockPattern
import InfraLint.Proofs.Source.DeclarationScan

/-!
The patterns for headers and for assignments. A header can be met exactly where a declaration starts
and an assignment exactly where the run of its variable starts, and neither pattern has a choice of
where it ends: a run is followed by what is in no word, so `\w+_name` has to take all of it.
-/
namespace InfraLint.Source
open Text Pattern

/- `resource\s+"([^"]+)"\s+"([^"]+)"\s*\{` and `resource\s+(\w+)\s+'([^']+)'\s*=`. -/
def headerPattern : Language → Pattern
  | .terraform =>
    spelled "resource".toList <| atLeastOne .blank <| quotedPart '"' <| atLeastOne .blank <|
      quotedPart '"' <| freeBlanks <| spelled ['{'] .empty
  | .bicep =>
    spelled "resource".toList <| atLeastOne .blank <| atLeastOne .word <| atLeastOne .blank <|
      quotedPart '\'' <| freeBlanks <| spelled ['='] .empty

/- `(\w+_name)\s*=\s*"([^"]+)"`. -/
def assignmentPattern : Pattern :=
  atLeastOne .word <| spelled "_name".toList <| freeBlanks <| spelled ['='] <| freeBlanks <|
    quotedPart '"' .empty

variable {language : Language} {before s taken after rest : List Char}

theorem takes_spelled_end {w : List Char} : Takes (spelled w .empty) before s after ↔ s = w := by
  simp [takes_spelled, takes_empty]

/- In Terraform the opening brace is taken with the header, and the white space in front of it. -/
theorem takes_headerPattern :
    Takes (headerPattern language) before taken after ↔
      ∃ d, DeclarationStarts language (taken ++ after) d after := by
  constructor
  · cases language with
    | terraform =>
      simp only [headerPattern, takes_spelled, takes_atLeastOne, takes_quotedPart, takes_freeBlanks,
        takes_empty, gap_iff]
      rintro ⟨_, rfl, first, _, rfl, gap₁, kind, _, rfl, kindText, second, _, rfl, gap₂, name, _,
        rfl, nameText, space, _, rfl, blank, _, rfl, rfl⟩
      have start : DeclarationStarts .terraform _ _ after :=
        .terraform (.terraform gap₁ kindText gap₂ nameText) rfl blank
      exact ⟨_, by simpa using start⟩
    | bicep =>
      simp only [headerPattern, takes_spelled, takes_atLeastOne, takes_quotedPart, takes_freeBlanks,
        takes_empty, gap_iff, word_iff]
      rintro ⟨_, rfl, first, _, rfl, gap₁, name, _, rfl, nameWord, second, _, rfl, gap₂, kind, _,
        rfl, kindText, space, _, rfl, blank, _, rfl, rfl⟩
      have start : DeclarationStarts .bicep _ _ after :=
        .bicep (.bicep gap₁ nameWord gap₂ kindText blank) rfl
      exact ⟨_, by simpa using start⟩
  · rintro ⟨d, start⟩
    generalize split : taken ++ after = s at start
    cases start with
    | @terraform _ head space _ text same blank =>
      obtain rfl : taken = head ++ space ++ ['{'] := List.append_cancel_right (by simpa using split)
      cases text with
      | bicep => cases same
      | terraform gap₁ kindText gap₂ nameText =>
        have whole : Takes (headerPattern .terraform) before _ after :=
          takes_spelled.mpr ⟨_, rfl, takes_atLeastOne.mpr ⟨_, _, rfl, gap₁,
            takes_quotedPart.mpr ⟨_, _, rfl, kindText, takes_atLeastOne.mpr ⟨_, _, rfl, gap₂,
              takes_quotedPart.mpr ⟨_, _, rfl, nameText, takes_freeBlanks.mpr ⟨_, _, rfl, blank,
                takes_spelled_end.mpr rfl⟩⟩⟩⟩⟩⟩
        simpa only [List.append_assoc, List.cons_append, List.nil_append] using whole
    | @bicep _ head _ text same =>
      obtain rfl : taken = head := List.append_cancel_right split
      cases text with
      | terraform => cases same
      | bicep gap₁ nameWord gap₂ kindText blank =>
        have whole : Takes (headerPattern .bicep) before _ after :=
          takes_spelled.mpr ⟨_, rfl, takes_atLeastOne.mpr ⟨_, _, rfl, gap₁,
            takes_atLeastOne.mpr ⟨_, _, rfl, nameWord, takes_atLeastOne.mpr ⟨_, _, rfl, gap₂,
              takes_quotedPart.mpr ⟨_, _, rfl, kindText, takes_freeBlanks.mpr ⟨_, _, rfl, blank,
                takes_spelled_end.mpr rfl⟩⟩⟩⟩⟩⟩
        simpa only [List.append_assoc, List.cons_append, List.nil_append] using whole

theorem headerPattern_met (language : Language) :
    MetBy (headerPattern language) (DeclarationStarts language) :=
  metBy_of_takes (declarationStarts_consumes language) (declarationStarts_unique language)
    fun _ _ _ => takes_headerPattern

instance (language : Language) (text : List Char) :
    Decidable ((headerPattern language).Apart text) :=
  decidable_of_iff _ (apart_iff_read (headerPattern_met language)
    (declarationStarts_consumes language) fun _ _ _ => declaration?_eq_some).symm

theorem ending_word : ∀ c ∈ "_name".toList, isWord c = true := List.all_eq_true.mp (by decide)

/- What stands behind the variable is blank or the equals sign, so the variable is the whole run. -/
theorem assignmentStarts_iff_written {a : Assignment} :
    AssignmentStarts s a rest ↔ ∃ front space inner value, Word front ∧ AllBlank space ∧
      AllBlank inner ∧ Quotable '"' value ∧
      s = front ++ "_name".toList ++ (space ++ '=' :: (inner ++ '"' :: (value ++ '"' :: rest))) ∧
      a = ⟨.ofList (front ++ "_name".toList), .ofList value⟩ := by
  constructor
  · rintro ⟨⟨front, some, run⟩, space, inner, value, blank, blank', text, behind, same⟩
    have words : ∀ c ∈ s.takeWhile isWord, isWord c = true :=
      List.all_eq_true.mp List.all_takeWhile
    have split := List.takeWhile_append_dropWhile (p := isWord) (l := s)
    rw [run] at words same split
    rw [behind] at split
    have word : Word front := ⟨some, fun c member => words c (List.mem_append_left _ member)⟩
    exact ⟨front, space, inner, value, word, blank, blank', text, split.symm, same⟩
  · rintro ⟨front, space, inner, value, word, blank, blank', text, rfl, rfl⟩
    have all : ∀ c ∈ front ++ "_name".toList, isWord c = true := by
      intro c member
      rcases List.mem_append.mp member with member | member
      · exact word.2 c member
      · exact ending_word c member
    have stop : ∀ c, (space ++ '=' :: (inner ++ '"' :: (value ++ '"' :: rest))).head? = some c →
        isWord c = false := by
      cases space with
      | nil => simp; decide
      | cons d space => exact gap_stops_word ⟨by simp, blank⟩
    obtain ⟨run, left⟩ := takeWhile_append_stop all stop
    exact ⟨⟨front, word.1, run⟩, space, inner, value, blank, blank', text, left, by rw [run]⟩

theorem takes_assignmentPattern :
    Takes assignmentPattern before taken after ↔
      ∃ a, AssignmentStarts (taken ++ after) a after := by
  simp only [assignmentStarts_iff_written]
  constructor
  · simp only [assignmentPattern, takes_spelled, takes_atLeastOne, takes_quotedPart,
      takes_freeBlanks, takes_empty, word_iff]
    rintro ⟨front, _, rfl, word, _, rfl, space, _, rfl, blank, _, rfl, inner, _, rfl, blank', value,
      _, rfl, text, rfl⟩
    exact ⟨_, front, space, inner, value, word, blank, blank', text, by simp, rfl⟩
  · rintro ⟨_, front, space, inner, value, word, blank, blank', text, split, rfl⟩
    obtain rfl :
        taken = front ++ "_name".toList ++ space ++ '=' :: inner ++ '"' :: value ++ ['"'] :=
      List.append_cancel_right (by simpa using split)
    have whole : Takes assignmentPattern before _ after :=
      takes_atLeastOne.mpr ⟨front, _, rfl, word, takes_spelled.mpr ⟨_, rfl,
        takes_freeBlanks.mpr ⟨_, _, rfl, blank, takes_spelled.mpr ⟨_, rfl,
          takes_freeBlanks.mpr ⟨_, _, rfl, blank', takes_quotedPart.mpr ⟨_, _, rfl, text,
            takes_empty.mpr rfl⟩⟩⟩⟩⟩⟩
    simpa only [List.append_assoc, List.cons_append, List.nil_append] using whole

theorem assignmentPattern_met : MetBy assignmentPattern AssignmentStarts :=
  metBy_of_takes assignmentStarts_consumes assignmentStarts_unique
    fun _ _ _ => takes_assignmentPattern

end InfraLint.Source
