import InfraLint.Proofs.Audit.WrittenTags

/-!
Resources with compliant tags. They have no findings of their own, unless a closing brace in a key
or a value hides a required tag that stands behind it.
-/
namespace InfraLint.Audit.Tagging
open Source Text

variable {rules : RuleSet} {language : Language} {fileName content : String}
  {before after : List Block} {b : Block} {w : WrittenTags b.language}

/-- Every required tag is a key, the project is the expected one or an interpolation, in quotes that
close behind it, and no other entry has the word `Project` in it. -/
structure Compliant (rules : RuleSet) (w : WrittenTags language) : Prop where
  complete : ∀ tag ∈ rules.requiredTags, ∃ e ∈ w.entries, e.key = tag.toList
  expected : ∀ e ∈ w.entries, e.key = "Project".toList →
    e.value = rules.expectedProject.toList ∨ isInterpolated (.ofList e.value) = true
  closed : ∀ e ∈ w.entries, e.key = "Project".toList → language.quote ∉ e.value
  nowhereElse : ∀ e ∈ w.entries, e.key ≠ "Project".toList → ¬ e.Mentions "Project".toList

theorem project_split (entries : List (TagEntry language)) :
    (∀ e ∈ entries, e.key ≠ "Project".toList) ∨
      ∃ earlier e later, entries = earlier ++ e :: later ∧ e.key = "Project".toList ∧
        ∀ x ∈ earlier, x.key ≠ "Project".toList := by
  induction entries with
  | nil => simp
  | cons e entries ih =>
    by_cases key : e.key = "Project".toList
    · exact Or.inr ⟨[], e, entries, rfl, key, by simp⟩
    · rcases ih with none | ⟨earlier, x, later, rfl, isProject, others⟩
      · exact Or.inl (List.forall_mem_cons.mpr ⟨key, none⟩)
      · exact Or.inr ⟨e :: earlier, x, later, rfl, isProject,
          List.forall_mem_cons.mpr ⟨key, others⟩⟩

theorem projectFindings_eq_nil {d : Declaration} {tags : String}
    (known : projectTag tags = .absent ∨ projectTag tags = .reference ∨
      projectTag tags = .literal rules.expectedProject) : projectFindings rules d tags = [] := by
  rcases known with absent | reference | literal
  · simp [projectFindings, absent]
  · simp [projectFindings, reference]
  · simp [projectFindings, literal]

theorem projectFindings_compliant {w : WrittenTags language} (compliant : Compliant rules w)
    (d : Declaration) : projectFindings rules d (.ofList w.seen) = [] := by
  apply projectFindings_eq_nil
  rcases project_split w.entries with none | ⟨earlier, e, later, split, key, others⟩
  · exact Or.inl (WrittenTags.projectTag_silent fun e member =>
      compliant.nowhereElse e member (none e member))
  · have silent : ∀ x ∈ earlier, ¬ x.Mentions "Project".toList := fun x member =>
      compliant.nowhereElse x (by simp [split, member]) (others x member)
    by_cases unbraced : ∀ x ∈ earlier, x.Unbraced
    · have member : e ∈ w.entries := by simp [split]
      rw [WrittenTags.projectTag_entry split key (compliant.closed e member key) silent unbraced]
      split
      · exact Or.inr (Or.inl rfl)
      · unfold quotedTag
        rcases compliant.expected e member key with same | marked
        · split
          · exact Or.inr (Or.inl rfl)
          · rw [same, String.ofList_toList]
            exact Or.inr (Or.inr rfl)
        · rw [if_pos marked]
          exact Or.inr (Or.inl rfl)
    · exact Or.inl (WrittenTags.projectTag_hidden split silent unbraced)

theorem missingTags_eq_nil_iff {text : String} :
    rules.missingTags text = [] ↔ ∀ tag ∈ rules.requiredTags, tag.occursIn text = true := by
  simp [RuleSet.missingTags, List.filter_eq_nil_iff]

theorem findings_compliant_iff (extracted : blocks language content = before ++ b :: after)
    (judged : rules.isTagExempt b.kind = false) (written : b.body.toList = w.body)
    (compliant : Compliant rules w) :
    findings rules language fileName content =
        otherFindings rules language fileName content (before ++ after) ↔
      ∀ tag ∈ rules.requiredTags, tag.occursIn (.ofList w.seen) = true := by
  rw [findings_eq_other_iff extracted, blockFindings_written judged written,
    projectFindings_compliant compliant, List.append_nil, List.map_eq_nil_iff,
    missingTags_eq_nil_iff]

/-- A compliant map adds no finding exactly when every required tag stands in front of its first
closing brace. That is so whenever no key and no value has such a brace in it. -/
theorem compliant_tags_unflagged_iff (extracted : blocks language content = before ++ b :: after)
    (judged : rules.isTagExempt b.kind = false) (written : b.body.toList = w.body)
    (compliant : Compliant rules w) :
    (findings rules language fileName content =
        otherFindings rules language fileName content (before ++ after) ↔
      ∀ tag ∈ rules.requiredTags, tag.occursIn (.ofList w.seen) = true) ∧
    ((∀ e ∈ w.entries, e.Unbraced) →
      findings rules language fileName content =
        otherFindings rules language fileName content (before ++ after)) := by
  refine ⟨findings_compliant_iff extracted judged written compliant, ?_⟩
  intro unbraced
  rw [findings_compliant_iff extracted judged written compliant]
  intro tag required
  obtain ⟨e, member, key⟩ := compliant.complete tag required
  exact WrittenTags.key_in_seen unbraced member key

/- Three tags as the default rules ask for them. -/
def threeTags (environment : String) : List (TagEntry .terraform) :=
  [line "Environment" environment, line "Project" "BidOne-Integration-Demo",
    line "ManagedBy" "Terraform"]

theorem threeTags_compliant {environment : String} (silent : 'P' ∉ environment.toList) :
    Compliant {} (vaultTags (threeTags environment)) := by
  have key : 'P' ∉ "Environment".toList := by decide
  have environmentSilent : ¬ (line "Environment" environment).Mentions "Project".toList :=
    not_mentions key silent
  have managedSilent : ¬ (line "ManagedBy" "Terraform").Mentions "Project".toList :=
    not_mentions (by decide) (by decide)
  constructor
  · simp [vaultTags, threeTags, line]
  · simp [vaultTags, threeTags, line]
  · simp [vaultTags, threeTags, line, Language.quote]
  · intro e member other
    simp only [vaultTags, threeTags, List.mem_cons, List.not_mem_nil, or_false] at member
    rcases member with rfl | rfl | rfl
    · exact environmentSilent
    · exact absurd rfl other
    · exact managedSilent

theorem plain_threeTags_unflagged :
    findings {} .terraform "main.tf" (vaultText (threeTags "dev")) = [] := by
  have extracted : blocks .terraform (vaultText (threeTags "dev")) = _ :=
    blocks_vaultText (by decide +kernel)
  have unbraced : ∀ e ∈ (vaultTags (threeTags "dev")).entries, e.Unbraced := by
    unfold TagEntry.Unbraced
    decide
  have same : findings {} .terraform "main.tf" _ = otherFindings {} .terraform "main.tf" _ _ :=
    (compliant_tags_unflagged_iff extracted vault_judged (vaultBlock_written _)
      (threeTags_compliant (by decide))).2 unbraced
  rw [same]
  simp [otherFindings, variablesFile]

/-- The environment hides the two tags behind it. -/
theorem interpolated_threeTags_flagged :
    ¬∀ (rules : RuleSet) (language : Language) (fileName content : String)
      (before after : List Block) (b : Block) (w : WrittenTags b.language),
      blocks language content = before ++ b :: after → rules.isTagExempt b.kind = false →
      b.body.toList = w.body → Compliant rules w →
      findings rules language fileName content =
        otherFindings rules language fileName content (before ++ after) := by
  intro neverFlagged
  have extracted : blocks .terraform (vaultText (threeTags "$\x7bvar.env\x7d")) = _ :=
    blocks_vaultText (by decide +kernel)
  have compliant : Compliant {} (vaultTags (threeTags "$\x7bvar.env\x7d")) :=
    threeTags_compliant (by decide)
  have same := neverFlagged {} .terraform "main.tf" _ _ _ _ _ extracted vault_judged
    (vaultBlock_written _) compliant
  rw [findings_compliant_iff extracted vault_judged (vaultBlock_written _) compliant] at same
  have managed := same "ManagedBy" (by simp)
  have hidden : occurs "ManagedBy".toList
      (vaultTags (threeTags "$\x7bvar.env\x7d")).seen = false := by decide +kernel
  rw [occursIn_ofList] at managed
  exact Bool.noConfusion (hidden.symm.trans managed)

end InfraLint.Audit.Tagging
