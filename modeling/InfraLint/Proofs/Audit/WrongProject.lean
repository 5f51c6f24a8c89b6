import InfraLint.Proofs.Audit.WrittenTags

/-!
Resources with a wrong project. The first place at which the project is read decides, and a closing
brace in front of it hides it.
-/
namespace InfraLint.Audit.Tagging
open Source Text

variable {rules : RuleSet} {language : Language} {fileName content : String}
  {before after : List Block} {b : Block} {w : WrittenTags b.language}

def ReportsProject (subject : String) (found : List Finding) : Prop :=
  ∃ f ∈ found, f.kind = .incorrectProjectTag ∧ f.subject = subject

/-- Where the project is read first in what is seen of the map, it is another literal. -/
def ReadsWrong (rules : RuleSet) (w : WrittenTags language) : Prop :=
  ∃ value, First ProjectAt none w.seen (.literal value) ∧ value ≠ rules.expectedProject

theorem readsWrong_iff {w : WrittenTags language} : ReadsWrong rules w ↔
    ∃ value, projectTag (.ofList w.seen) = .literal value ∧ value ≠ rules.expectedProject := by
  have text : (String.ofList w.seen).toList = w.seen := String.toList_ofList
  simp only [ReadsWrong, projectTag_eq_iff _ (.literal _) (by simp), text]

theorem projectFindings_ne_nil_iff {d : Declaration} {w : WrittenTags language} :
    projectFindings rules d (.ofList w.seen) ≠ [] ↔ ReadsWrong rules w := by
  rw [readsWrong_iff, projectFindings]
  cases projectTag (.ofList w.seen) with
  | absent => simp
  | reference => simp
  | literal value => by_cases same : value = rules.expectedProject <;> simp [same]

theorem block_reports_iff (judged : rules.isTagExempt b.kind = false)
    (written : b.body.toList = w.body) :
    ReportsProject b.address (blockFindings rules b) ↔ ReadsWrong rules w := by
  rw [← projectFindings_ne_nil_iff (d := b.toDeclaration), blockFindings_written judged written]
  constructor
  · intro h nothing
    obtain ⟨f, member, kind, _⟩ := h
    rw [nothing, List.append_nil] at member
    obtain ⟨tag, _, rfl⟩ := List.mem_map.mp member
    simp at kind
  · intro given
    obtain ⟨f, member⟩ := List.exists_mem_of_ne_nil _ given
    exact ⟨f, List.mem_append_right _ member, projectFindings_form member⟩

theorem other_reports_not {others : List Block}
    (apart : ∀ c ∈ others, c.address ≠ b.address) :
    ¬ ReportsProject b.address (otherFindings rules language fileName content others) := by
  intro h
  obtain ⟨f, member, kind, subject⟩ := h
  rcases List.mem_append.mp member with inOther | shared
  · obtain ⟨c, isOther, found⟩ := List.mem_flatMap.mp inOther
    exact apart c isOther ((blockFindings_subject found).symm.trans subject)
  · split at shared
    · simp [variableFindings_kind shared] at kind
    · simp at shared

theorem readsWrong_entry_iff {w : WrittenTags language} {earlier later : List (TagEntry language)}
    {e : TagEntry language} (split : w.entries = earlier ++ e :: later)
    (key : e.key = "Project".toList) (closed : language.quote ∉ e.value)
    (plain : isInterpolated (.ofList e.value) = false)
    (wrong : e.value ≠ rules.expectedProject.toList)
    (silent : ∀ x ∈ earlier, ¬ x.Mentions "Project".toList) :
    ReadsWrong rules w ↔ '}' ∉ e.value ∧ ∀ x ∈ earlier, x.Unbraced := by
  rw [readsWrong_iff]
  by_cases unbraced : ∀ x ∈ earlier, x.Unbraced
  · rw [WrittenTags.projectTag_entry split key closed silent unbraced]
    by_cases inside : '}' ∈ e.value
    · simp [inside]
    · have other : String.ofList e.value ≠ rules.expectedProject := by
        intro same
        rw [← same, String.toList_ofList] at wrong
        exact wrong rfl
      simpa [inside, quotedTag, plain, other] using unbraced
  · rw [WrittenTags.projectTag_hidden split silent unbraced]
    simp [unbraced]

theorem flagged_of_readsWrong (extracted : blocks language content = before ++ b :: after)
    (judged : rules.isTagExempt b.kind = false) (written : b.body.toList = w.body)
    (reads : ReadsWrong rules w) :
    ReportsProject b.address (findings rules language fileName content) := by
  obtain ⟨f, member, form⟩ := (block_reports_iff judged written).mpr reads
  exact ⟨f, (mem_findings_split extracted).mpr (Or.inl member), form⟩

theorem readsWrong_of_flagged (extracted : blocks language content = before ++ b :: after)
    (judged : rules.isTagExempt b.kind = false) (written : b.body.toList = w.body)
    (apart : ∀ c ∈ before ++ after, c.address ≠ b.address)
    (flagged : ReportsProject b.address (findings rules language fileName content)) :
    ReadsWrong rules w := by
  obtain ⟨f, member, form⟩ := flagged
  rcases (mem_findings_split extracted).mp member with inBlock | inOther
  · exact (block_reports_iff judged written).mp ⟨f, inBlock, form⟩
  · exact absurd ⟨f, inOther, form⟩ (other_reports_not apart)

/-- A wrong project is reported exactly when it is what is read first up to the first closing
brace of the map. When no entry before it has the word `Project` in it, that is when no closing
brace stands in those entries and in its value. -/
theorem wrong_project_flagged_iff (extracted : blocks language content = before ++ b :: after)
    (judged : rules.isTagExempt b.kind = false) (written : b.body.toList = w.body)
    {earlier later : List (TagEntry b.language)} {e : TagEntry b.language}
    (split : w.entries = earlier ++ e :: later) (key : e.key = "Project".toList)
    (closed : b.language.quote ∉ e.value) (plain : isInterpolated (.ofList e.value) = false)
    (wrong : e.value ≠ rules.expectedProject.toList) :
    (ReadsWrong rules w →
      ReportsProject b.address (findings rules language fileName content)) ∧
    ((∀ c ∈ before ++ after, c.address ≠ b.address) →
      ReportsProject b.address (findings rules language fileName content) →
        ReadsWrong rules w) ∧
    ((∀ x ∈ earlier, ¬ x.Mentions "Project".toList) →
      (ReadsWrong rules w ↔ '}' ∉ e.value ∧ ∀ x ∈ earlier, x.Unbraced)) :=
  ⟨flagged_of_readsWrong extracted judged written, readsWrong_of_flagged extracted judged written,
    readsWrong_entry_iff split key closed plain wrong⟩

/- Rules for the project alone. -/
def projectRules : RuleSet := { requiredTags := [] }

theorem projectRules_judged : projectRules.isTagExempt "azurerm_key_vault" = false :=
  vault_judged

/- A project that is not the expected one, behind the environment. -/
def twoTags (environment : String) : List (TagEntry .terraform) :=
  [line "Environment" environment] ++ line "Project" "Other" :: []

theorem environment_silent {environment : String} (silent : 'P' ∉ environment.toList) :
    ∀ x ∈ [line "Environment" environment], ¬ x.Mentions "Project".toList := by
  intro x member
  obtain rfl := List.mem_singleton.mp member
  have key : 'P' ∉ "Environment".toList := by decide
  exact not_mentions key silent

theorem other_plain : isInterpolated (.ofList (line "Project" "Other").value) = false := by
  decide +kernel

theorem other_wrong : (line "Project" "Other").value ≠ projectRules.expectedProject.toList := by
  decide

theorem twoTags_flagged : ReportsProject (vaultBlock (twoTags "dev")).address
    (findings projectRules .terraform "main.tf" (vaultText (twoTags "dev"))) := by
  have extracted : blocks .terraform (vaultText (twoTags "dev")) = _ :=
    blocks_vaultText (by decide +kernel)
  have unbraced : ∀ x ∈ [line "Environment" "dev"], x.Unbraced := by
    unfold TagEntry.Unbraced
    decide
  have flagged : (_ → ReportsProject _ (findings projectRules .terraform "main.tf" _)) ∧ _ ∧ _ :=
    wrong_project_flagged_iff extracted projectRules_judged (vaultBlock_written (twoTags "dev"))
      rfl rfl (by decide) other_plain other_wrong
  exact flagged.1 ((flagged.2.2 (environment_silent (by decide))).mpr ⟨by decide, unbraced⟩)

/-- The environment hides the wrong project behind it. -/
theorem interpolated_twoTags_unflagged :
    ¬∀ (rules : RuleSet) (language : Language) (fileName content : String)
      (before after : List Block) (b : Block) (w : WrittenTags b.language)
      (e : TagEntry b.language),
      blocks language content = before ++ b :: after → rules.isTagExempt b.kind = false →
      b.body.toList = w.body → e ∈ w.entries → e.key = "Project".toList →
      b.language.quote ∉ e.value → isInterpolated (.ofList e.value) = false →
      e.value ≠ rules.expectedProject.toList →
      ReportsProject b.address (findings rules language fileName content) := by
  intro alwaysFlagged
  have extracted : blocks .terraform (vaultText (twoTags "$\x7bvar.env\x7d")) = _ :=
    blocks_vaultText (by decide +kernel)
  have member : line "Project" "Other" ∈ (vaultTags (twoTags "$\x7bvar.env\x7d")).entries :=
    List.mem_append_right _ List.mem_cons_self
  have flagged := alwaysFlagged projectRules .terraform "main.tf" _ _ _ _ _ _ extracted
    projectRules_judged (vaultBlock_written _) member rfl (by decide) other_plain other_wrong
  have reads := readsWrong_of_flagged extracted projectRules_judged (vaultBlock_written _)
    (List.forall_mem_nil _) flagged
  have unbraced := (readsWrong_entry_iff rfl rfl (by decide) other_plain other_wrong
    (environment_silent (by decide))).mp reads
  have environment := unbraced.2 _ (List.mem_singleton.mpr rfl)
  revert environment
  unfold TagEntry.Unbraced
  decide

end InfraLint.Audit.Tagging
