import InfraLint.Audit.Tagging
import InfraLint.Proofs.Source.DeclarationScan
import InfraLint.Proofs.Source.WrittenProject

/-!
What the tag audit says about a resource whose tags are written out. The audit sees the map only
up to its first closing brace, so an interpolation in a value can hide the entries behind it.
-/
namespace InfraLint.Audit.Tagging
open Source Text

/-- What the audit has to say but for one block: about the others, and the shared variable. -/
def otherFindings (rules : RuleSet) (language : Language) (fileName content : String)
    (others : List Block) : List Finding :=
  others.flatMap (blockFindings rules) ++
    if language = .terraform ∧ fileName = variablesFile then variableFindings rules content
    else []

variable {rules : RuleSet} {language : Language} {fileName content : String}
  {before after : List Block} {b : Block} {w : WrittenTags b.language}

theorem mem_findings_split (extracted : blocks language content = before ++ b :: after)
    {f : Finding} : f ∈ findings rules language fileName content ↔
      f ∈ blockFindings rules b ∨
        f ∈ otherFindings rules language fileName content (before ++ after) := by
  simp only [findings, otherFindings, extracted, List.flatMap_append, List.flatMap_cons,
    List.mem_append]
  constructor
  · intro h
    rcases h with (inBefore | inBlock | inAfter) | shared
    · exact Or.inr (Or.inl (Or.inl inBefore))
    · exact Or.inl inBlock
    · exact Or.inr (Or.inl (Or.inr inAfter))
    · exact Or.inr (Or.inr shared)
  · intro h
    rcases h with inBlock | (inBefore | inAfter) | shared
    · exact Or.inl (Or.inr (Or.inl inBlock))
    · exact Or.inl (Or.inl inBefore)
    · exact Or.inl (Or.inr (Or.inr inAfter))
    · exact Or.inr shared

theorem findings_eq_other_iff (extracted : blocks language content = before ++ b :: after) :
    findings rules language fileName content =
      otherFindings rules language fileName content (before ++ after) ↔
        blockFindings rules b = [] := by
  simp only [findings, otherFindings, extracted, List.flatMap_append, List.flatMap_cons,
    List.append_assoc, List.append_cancel_left_eq]
  constructor
  · intro same
    have lengths := congrArg List.length same
    rw [List.length_append] at lengths
    exact List.eq_nil_of_length_eq_zero (by omega)
  · intro nothing
    rw [nothing, List.nil_append]

theorem requiredFindings_form {d : Declaration} {tags : String} {f : Finding}
    (member : f ∈ requiredFindings rules d tags) :
    f.kind = .missingRequiredTag ∧ f.subject = d.address := by
  unfold requiredFindings at member
  split at member
  · simp at member
  · obtain ⟨tag, _, rfl⟩ := List.mem_map.mp member
    exact ⟨rfl, rfl⟩

theorem projectFindings_form {d : Declaration} {tags : String} {f : Finding}
    (member : f ∈ projectFindings rules d tags) :
    f.kind = .incorrectProjectTag ∧ f.subject = d.address := by
  unfold projectFindings at member
  split at member
  · split at member
    · simp at member
    · obtain rfl := List.mem_singleton.mp member
      exact ⟨rfl, rfl⟩
  · simp at member

/-- Whatever is found in a block is about the resource that it declares. -/
theorem blockFindings_subject {f : Finding} (member : f ∈ blockFindings rules b) :
    f.subject = b.address := by
  simp only [blockFindings] at member
  split at member
  · simp at member
  · split at member
    · obtain rfl := List.mem_singleton.mp member
      rfl
    · split at member
      · rcases List.mem_append.mp member with required | project
        · exact (requiredFindings_form required).2
        · exact (projectFindings_form project).2
      · split at member
        · simp at member
        · obtain rfl := List.mem_singleton.mp member
          rfl

theorem variableFindings_kind {f : Finding} (member : f ∈ variableFindings rules content) :
    f.kind = .tagsVariableDefault := by
  unfold variableFindings at member
  split at member
  · simp at member
  · obtain ⟨tag, _, rfl⟩ := List.mem_map.mp member
    rfl

theorem mentionsTags_written (written : b.body.toList = w.body) : mentionsTags b = true := by
  unfold mentionsTags
  split
  · have tags : "tags".occursIn b.body = true := by
      rw [String.occursIn, written, occurs_iff]
      exact ⟨w.front, _, (List.append_assoc _ _ _).symm⟩
    rw [tags, Bool.true_or]
  · rename_i bicep
    have sign : b.language.sign = ':' := by rw [bicep]; rfl
    have property : "tags:".occursIn b.body = true := by
      rw [String.occursIn, written, occurs_iff]
      refine ⟨w.front, w.space ++ '{' :: (w.inner ++ '}' :: w.back), ?_⟩
      simp [WrittenTags.body, w.joined bicep, sign]
    rw [property, Bool.true_or]

theorem isReference_seen (w : WrittenTags language) :
    isReference language (.ofList w.seen) = false := by
  cases language with
  | bicep => rfl
  | terraform =>
    refine String.startsWith_string_eq_false_iff.mpr ?_
    have text : (String.ofList w.seen).toList = w.seen := String.toList_ofList
    rw [text]
    simp [WrittenTags.seen]

/-- The audit of a written map is that of the text which is seen of it. -/
theorem blockFindings_written (judged : rules.isTagExempt b.kind = false)
    (written : b.body.toList = w.body) :
    blockFindings rules b =
      (rules.missingTags (.ofList w.seen)).map (fun tag => ⟨.missingRequiredTag, b.address,
        label b.toDeclaration ++ " is missing required tag: " ++ tag⟩) ++
      projectFindings rules b.toDeclaration (.ofList w.seen) := by
  simp only [blockFindings, judged, Bool.false_eq_true, if_false, mentionsTags_written written,
    Bool.not_true, tagMap?_written written, requiredFindings, isReference_seen]

theorem not_mentions {e : TagEntry language} (key : 'P' ∉ e.key) (value : 'P' ∉ e.value) :
    ¬ e.Mentions "Project".toList := by
  intro h
  rcases h with ⟨u, v, split, _⟩ | ⟨u, v, split, _⟩
  · exact key (by simp [split])
  · exact value (by simp [split])

/- A key vault with some tags and nothing else, one tag to a line. -/
def line (key value : String) : TagEntry .terraform where
  indent := "\n    ".toList
  quotedKey := false
  key := key.toList
  gap := [' ']
  sign := '='
  space := [' ']
  value := value.toList
  indent_spacing := spacing_of_blank (allBlank_of_all (by decide))
  gap_blank := allBlank_of_all (by decide)
  isSign := Or.inl rfl
  space_blank := allBlank_of_all (by decide)

def vaultTags (entries : List (TagEntry .terraform)) : WrittenTags .terraform where
  front := "\n  ".toList
  gap := [' ']
  space := [' ']
  entries := entries
  trail := "\n  ".toList
  back := ['\n']
  untagged := by decide
  gap_blank := allBlank_of_all (by decide)
  joined := by simp
  space_blank := allBlank_of_all (by decide)
  trail_spacing := spacing_of_blank (allBlank_of_all (by decide))

def vaultHeader : List Char :=
  "resource".toList ++ [' '] ++ '"' :: "azurerm_key_vault".toList ++ '"' :: [' '] ++
    '"' :: "v".toList ++ ['"']

def vaultSource (entries : List (TagEntry .terraform)) : List Char :=
  vaultHeader ++ [' '] ++ '{' :: (vaultTags entries).body ++ '}' :: ['\n']

def vaultText (entries : List (TagEntry .terraform)) : String := .ofList (vaultSource entries)

def vaultBlock (entries : List (TagEntry .terraform)) : Block :=
  ⟨⟨.terraform, "azurerm_key_vault", "v"⟩, .ofList (vaultTags entries).body⟩

theorem vaultHeader_text :
    HeaderText ⟨.terraform, "azurerm_key_vault", "v"⟩ vaultHeader := by
  have gap : Gap [' '] := ⟨by decide, allBlank_of_all (by decide)⟩
  have kind : Quotable '"' "azurerm_key_vault".toList := ⟨by decide, by decide⟩
  have name : Quotable '"' "v".toList := ⟨by decide, by decide⟩
  have header := HeaderText.terraform gap kind gap name
  rwa [String.ofList_toList, String.ofList_toList] at header

theorem blocks_vaultText {entries : List (TagEntry .terraform)}
    (closes : closing? innerLevels 0 ((vaultTags entries).body ++ ['}']) =
      some ((vaultTags entries).body, [])) :
    blocks .terraform (vaultText entries) = [] ++ vaultBlock entries :: [] := by
  have balanced : Balanced innerLevels (vaultTags entries).body := balanced_iff_closing?.mpr closes
  have space : AllBlank [' '] := allBlank_of_all (by decide)
  have feed : AllBlank ['\n'] := allBlank_of_all (by decide)
  exact blocks_single vaultHeader_text space balanced feed

theorem vaultBlock_written (entries : List (TagEntry .terraform)) :
    (vaultBlock entries).body.toList = (vaultTags entries).body := String.toList_ofList

theorem vault_judged : ({} : RuleSet).isTagExempt "azurerm_key_vault" = false := by
  decide +kernel

end InfraLint.Audit.Tagging
