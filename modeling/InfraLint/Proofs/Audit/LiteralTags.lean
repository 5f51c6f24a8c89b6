import InfraLint.Proofs.Audit.WrittenTags
import InfraLint.Proofs.Json.Members
import InfraLint.Proofs.Source.TagBlock
import InfraLint.Resource.Check

/-!
Resources with a map of literals. The audit searches the text of the map for words, the tag check
looks keys up in an object; on these maps both come to the same verdict.
-/
namespace InfraLint
open Source Text

variable {language : Language} {w : WrittenTags language} {rules : RuleSet}

/-! The map as an object -/

def Source.WrittenTags.pairs (w : WrittenTags language) : List (String × Json) :=
  w.entries.map fun e => (.ofList e.key, .string (.ofList e.value))

def Source.WrittenTags.members (w : WrittenTags language) : Members Json := .ofList w.pairs

namespace Source.WrittenTags

theorem mem_keys_iff {key : String} :
    key ∈ w.pairs.map Prod.fst ↔ ∃ e ∈ w.entries, e.key = key.toList := by
  simp only [pairs, List.map_map, List.mem_map, Function.comp_apply]
  constructor
  · rintro ⟨e, member, rfl⟩
    exact ⟨e, member, String.toList_ofList.symm⟩
  · rintro ⟨e, member, same⟩
    exact ⟨e, member, by rw [same, String.ofList_toList]⟩

theorem keys_distinct (literal : w.Literal) : (w.pairs.map Prod.fst).Nodup := by
  have keys : w.pairs.map Prod.fst = (w.entries.map TagEntry.key).map String.ofList := by
    simp [pairs]
  rw [keys]
  refine List.Pairwise.map _ ?_ literal.distinct
  intro a b other same
  exact other (String.ofList_injective same)

theorem contains_members (literal : w.Literal) (key : String) :
    Members.contains key w.members = w.hasKey key := by
  rw [Bool.eq_iff_iff, members, Members.contains_ofList_iff (keys_distinct literal), mem_keys_iff,
    hasKey_iff]

theorem get?_members (literal : w.Literal) {e : TagEntry language} (member : e ∈ w.entries)
    {key : String} (same : e.key = key.toList) :
    Members.get? key w.members = some (.string (.ofList e.value)) := by
  refine Members.get?_ofList_of_mem (keys_distinct literal) ?_
  refine List.mem_map.mpr ⟨e, member, ?_⟩
  rw [same, String.ofList_toList]

/-- A word whose first letter stands once in the map, at a key, stands there only as that key. -/
theorem onlyAsKey_of_letter {c : Char} {word : List Char}
    {earlier later : List (TagEntry language)} {e : TagEntry language}
    (split : w.entries = earlier ++ e :: later) (key : e.key = c :: word)
    (before : c ∉ '{' :: (earlier.flatMap TagEntry.text ++ e.lead))
    (behind : c ∉ word ++ (e.link ++ (e.value ++ language.quote ::
      (later.flatMap TagEntry.text ++ (w.trail ++ ['}']))))) : w.OnlyAsKey (c :: word) := by
  intro u v place
  have text : w.map = ('{' :: (earlier.flatMap TagEntry.text ++ e.lead)) ++ c ::
      (word ++ (e.link ++ (e.value ++ language.quote ::
        (later.flatMap TagEntry.text ++ (w.trail ++ ['}']))))) := by
    simp [map_split split, TagEntry.text, key]
  rcases mark_split before (text.symm.trans place) with ⟨start, _⟩ | ⟨x, _, again⟩
  · exact ⟨earlier, e, later, split, key, start⟩
  · exact absurd (by simp [again]) behind

theorem onlyAsKey_of_absent {c : Char} {word : List Char} (absent : c ∉ w.map) :
    w.OnlyAsKey (c :: word) := by
  intro u v place
  exact absurd (by simp [place]) absent

/-- The map gives a project that is not the one that the rules expect. -/
def OtherProject (rules : RuleSet) (w : WrittenTags language) : Prop :=
  ∃ e ∈ w.entries, e.key = "Project".toList ∧ e.value ≠ rules.expectedProject.toList

instance : Decidable (OtherProject rules w) :=
  inferInstanceAs (Decidable (∃ e ∈ w.entries, _))

theorem otherProject_iff (literal : w.Literal) {e : TagEntry language} (member : e ∈ w.entries)
    (key : e.key = "Project".toList) :
    w.OtherProject rules ↔ String.ofList e.value ≠ rules.expectedProject := by
  have text : String.ofList e.value = rules.expectedProject ↔
      e.value = rules.expectedProject.toList := by
    constructor
    · intro same
      rw [← same, String.toList_ofList]
    · intro same
      rw [same, String.ofList_toList]
  constructor
  · rintro ⟨x, inside, isProject, other⟩
    obtain ⟨earlier, later, split⟩ := List.append_of_mem member
    obtain ⟨earlier', later', split'⟩ := List.append_of_mem inside
    obtain ⟨_, rfl⟩ := Literal.earlier_unique literal.distinct split split'
      (key.trans isProject.symm)
    rwa [ne_eq, text]
  · intro other
    rw [ne_eq, text] at other
    exact ⟨e, member, key, other⟩

end Source.WrittenTags

/-! What the check asks of the object -/

theorem tagsComplete_iff (literal : w.Literal) :
    Requirement.tagsComplete rules w.members = true ↔
      (∀ tag ∈ rules.requiredTags, w.hasKey tag = true) ∧ ¬ w.OtherProject rules := by
  have project : ((Members.get? "Project" w.members).all fun project =>
      Requirement.acceptsText (· == rules.expectedProject) project.unwrapped) = true ↔
        ¬ w.OtherProject rules := by
    by_cases given : ∃ e ∈ w.entries, e.key = "Project".toList
    · obtain ⟨e, member, key⟩ := given
      rw [WrittenTags.get?_members literal member key,
        WrittenTags.otherProject_iff literal member key]
      simp [Requirement.acceptsText, Json.unwrapped, literal.uninterpolated member]
    · have absent : Members.get? "Project" w.members = none :=
        Members.get?_ofList_of_not_mem fun inside => given (WrittenTags.mem_keys_iff.mp inside)
      have none : ¬ w.OtherProject rules := fun ⟨e, member, key, _⟩ => given ⟨e, member, key⟩
      simp [absent, none]
  rw [Requirement.tagsComplete, Bool.and_eq_true, project, List.all_eq_true]
  simp only [WrittenTags.contains_members literal]

/-! What the audit finds in the text -/

namespace Audit.Tagging

/-- One finding for each required tag that is no key, in the order of the rules, and one for a
project that is not the expected one. -/
def keyFindings (rules : RuleSet) (d : Declaration) (w : WrittenTags language) : List Finding :=
  (rules.requiredTags.filter (!w.hasKey ·)).map (fun tag => ⟨.missingRequiredTag, d.address,
    label d ++ " is missing required tag: " ++ tag⟩) ++
  if w.OtherProject rules then
    [⟨.incorrectProjectTag, d.address, label d ++ " has incorrect Project tag value"⟩]
  else []

theorem keyFindings_eq_nil_iff {d : Declaration} : keyFindings rules d w = [] ↔
    (∀ tag ∈ rules.requiredTags, w.hasKey tag = true) ∧ ¬ w.OtherProject rules := by
  rw [keyFindings, List.append_eq_nil_iff, List.map_eq_nil_iff, List.filter_eq_nil_iff]
  simp

theorem missingTags_literal (literal : w.Literal)
    (required : ∀ tag ∈ rules.requiredTags, w.OnlyAsKey tag.toList) :
    rules.missingTags (.ofList w.seen) = rules.requiredTags.filter (!w.hasKey ·) := by
  refine List.filter_congr ?_
  intro tag member
  have same : tag.occursIn (.ofList w.seen) = w.hasKey tag := by
    rw [Bool.eq_iff_iff, WrittenTags.occursIn_seen_iff literal (required tag member),
      WrittenTags.hasKey_iff]
  rw [same]

theorem projectFindings_literal (literal : w.Literal)
    (project : w.OnlyAsKey "Project".toList) (d : Declaration) :
    projectFindings rules d (.ofList w.seen) = if w.OtherProject rules then
      [⟨.incorrectProjectTag, d.address, label d ++ " has incorrect Project tag value"⟩]
    else [] := by
  rcases WrittenTags.projectTag_literal literal project with
    ⟨absent, reads⟩ | ⟨e, member, key, reads⟩
  · have none : ¬ w.OtherProject rules := fun ⟨e, member, key, _⟩ => absent e member key
    rw [projectFindings, reads, if_neg none]
  · rw [projectFindings, reads]
    by_cases same : String.ofList e.value = rules.expectedProject
    · have none : ¬ w.OtherProject rules := by
        rw [WrittenTags.otherProject_iff literal member key]
        exact fun other => other same
      simp [same, none]
    · have other : w.OtherProject rules :=
        (WrittenTags.otherProject_iff literal member key).mpr same
      simp [same, other]

theorem blockFindings_literal {b : Block} {w : WrittenTags b.language}
    (judged : rules.isTagExempt b.kind = false) (written : b.body.toList = w.body)
    (literal : w.Literal) (required : ∀ tag ∈ rules.requiredTags, w.OnlyAsKey tag.toList)
    (project : w.OnlyAsKey "Project".toList) :
    blockFindings rules b = keyFindings rules b.toDeclaration w := by
  rw [blockFindings_written judged written, missingTags_literal literal required,
    projectFindings_literal literal project, keyFindings]

theorem findings_literal (b : TagBlock) (judged : rules.isTagExempt b.declaration.kind = false)
    (required : ∀ tag ∈ rules.requiredTags, b.tags.OnlyAsKey tag.toList)
    (project : b.tags.OnlyAsKey "Project".toList) (fileName : String) :
    findings rules b.declaration.language fileName b.text =
      keyFindings rules b.declaration b.tags := by
  have block : blockFindings rules b.block = keyFindings rules b.declaration b.tags :=
    blockFindings_literal judged b.block_body b.literal required project
  have shared : (if b.declaration.language = .terraform ∧ fileName = variablesFile then
      variableFindings rules b.text else []) = [] := by
    split
    · rename_i inVariables
      rw [variableFindings, b.tagsDefault?_text inVariables.1]
    · rfl
  rw [findings, b.blocks_text, shared, List.append_nil, List.flatMap_singleton, block]

/-- The words of the rules stand in the map only as keys. Then the audit of the text says which
required tags are no keys and whether the project is another one, and it says nothing exactly when
the tag check passes on a resource with these tags. -/
theorem literal_tags_agree {policy : Policy} (b : TagBlock)
    (judged : policy.rules.isTagExempt b.declaration.kind = false)
    (required : ∀ tag ∈ policy.rules.requiredTags, b.tags.OnlyAsKey tag.toList)
    (project : b.tags.OnlyAsKey "Project".toList) (fileName kind : String) {as : Attributes}
    (configured : as.get? "tags" = some (.object b.tags.members)) :
    findings policy.rules b.declaration.language fileName b.text =
        keyFindings policy.rules b.declaration b.tags ∧
      (findings policy.rules b.declaration.language fileName b.text = [] ↔
        Check.tags.passes policy kind as = true) := by
  have found := findings_literal b judged required project fileName
  have passes : Check.tags.passes policy kind as =
      Requirement.tagsComplete policy.rules b.tags.members := by
    simp only [Check.tags, Requirement.tags, configured]
  rw [found, passes, tagsComplete_iff b.literal, keyFindings_eq_nil_iff]
  exact ⟨rfl, Iff.rfl⟩

/- A key vault of another project, of which nobody says how it is managed. -/
def unmanagedTags : WrittenTags .terraform :=
  vaultTags [line "Environment" "dev", line "Project" "Other"]

theorem unmanagedTags_balanced : Balanced innerLevels unmanagedTags.body := by
  have closes : closing? innerLevels 0 (unmanagedTags.body ++ ['}']) =
      some (unmanagedTags.body, []) := by
    decide +kernel
  exact balanced_iff_closesFrom.mpr ((closing?_eq_some (Nat.zero_le innerLevels)).mp closes).2

theorem unmanagedTags_literal : unmanagedTags.Literal where
  ownLine := by decide
  bare := by decide
  identifier := by decide
  assigned := by decide
  plain := by decide
  distinct := by decide

theorem unmanagedTags_untagged : occurs "tags".toList unmanagedTags.back = false := by decide

def unmanagedVault : TagBlock where
  declaration := ⟨.terraform, "azurerm_key_vault", "v"⟩
  head := vaultHeader
  space := [' ']
  tags := unmanagedTags
  after := ['\n']
  header := vaultHeader_text
  space_blank := space_allBlank
  balanced := unmanagedTags_balanced
  literal := unmanagedTags_literal
  untagged := unmanagedTags_untagged
  after_blank := feed_allBlank

theorem unmanaged_only :
    ∀ tag ∈ ({} : RuleSet).requiredTags, unmanagedTags.OnlyAsKey tag.toList := by
  intro tag member
  simp only [List.mem_cons, List.not_mem_nil, or_false] at member
  have first : unmanagedTags.entries =
      [] ++ line "Environment" "dev" :: [line "Project" "Other"] := rfl
  have second : unmanagedTags.entries =
      [line "Environment" "dev"] ++ line "Project" "Other" :: [] := rfl
  rcases member with rfl | rfl | rfl
  · exact WrittenTags.onlyAsKey_of_letter first rfl (by decide) (by decide)
  · exact WrittenTags.onlyAsKey_of_letter second rfl (by decide) (by decide)
  · exact WrittenTags.onlyAsKey_of_absent (by decide)

/- The tag check asks no patterns. -/
def defaultPolicy : Policy := ⟨{}, .empty, .empty, .empty, .empty⟩

theorem unmanagedVault_refused :
    findings {} .terraform "main.tf" unmanagedVault.text =
      [⟨.missingRequiredTag, "azurerm_key_vault.v",
        "Resource 'azurerm_key_vault.v' is missing required tag: ManagedBy"⟩,
      ⟨.incorrectProjectTag, "azurerm_key_vault.v",
        "Resource 'azurerm_key_vault.v' has incorrect Project tag value"⟩] ∧
      Check.tags.passes defaultPolicy "azurerm_key_vault"
        ⟨[("tags", .object unmanagedTags.members)]⟩ = false := by
  have judged : defaultPolicy.rules.isTagExempt unmanagedVault.declaration.kind = false :=
    vault_judged
  have configured : Attributes.get? "tags" ⟨[("tags", .object unmanagedTags.members)]⟩ =
      some (.object unmanagedTags.members) := rfl
  have agree := literal_tags_agree unmanagedVault judged unmanaged_only
    (unmanaged_only "Project" (by decide)) "main.tf" "azurerm_key_vault" configured
  refine ⟨agree.1.trans (by decide +kernel), ?_⟩
  rw [Bool.eq_false_iff]
  intro passes
  have nothing : keyFindings {} unmanagedVault.declaration unmanagedTags = [] :=
    agree.1.symm.trans (agree.2.mpr passes)
  revert nothing
  decide +kernel

end Audit.Tagging
end InfraLint
