import InfraLint.Command.Run
import InfraLint.Proofs.Policy.Standard
import InfraLint.Proofs.Policy.WrittenRules

/-!
The rules that a run writes. A run on the written rules uses the same policy as the run that wrote
them.
-/
namespace InfraLint.Command

variable {table : Text.PropertyTable} {tree : Entry} {files : Files} {rules : Option String}
  {policy : Policy}

theorem ofPath_eq_ok {path : String} {r : RuleSet} :
    RuleSet.ofPath tree path = .ok r ↔
      ∃ text, tree.read path = .ok text ∧ RuleSet.ofYaml text = .ok r := by
  unfold RuleSet.ofPath
  cases tree.read path with
  | error cause => simp
  | ok text =>
    simp only [Except.ok.injEq, exists_eq_left']
    cases RuleSet.ofYaml text <;> simp

/-- A policy in use is made of the rules in the given file, or of the default rules. -/
theorem policyFor_eq_ok : policyFor table tree rules = .ok policy ↔
    ∃ r, rules.elim (.ok {}) (RuleSet.ofPath tree) = .ok r ∧
      Policy.ofRules table r = .ok policy := by
  unfold policyFor
  cases rules with
  | none =>
    simp only [Option.elim_none, pure_bind, Except.ok.injEq, exists_eq_left']
    -- the patterns of the default rules are not to be read here
    generalize ({} : RuleSet) = r
    cases Policy.ofRules table r <;> simp
  | some path =>
    simp only [Option.elim_some]
    cases RuleSet.ofPath tree path with
    | error e => simp [bind, Except.bind]
    | ok r =>
      simp only [bind, Except.bind, Except.ok.injEq, exists_eq_left']
      cases Policy.ofRules table r <;> simp

theorem policyFor_default : policyFor table tree none = .ok .standard :=
  policyFor_eq_ok.mpr ⟨{}, rfl, Policy.ofRules_default table⟩

theorem policyFor_rules (inUse : policyFor table tree rules = .ok policy) :
    policy.rules.security.Fits ∧ Policy.ofRules table policy.rules = .ok policy := by
  obtain ⟨r, given, made⟩ := policyFor_eq_ok.mp inUse
  obtain ⟨_, _, _, _, rfl⟩ := (Policy.ofRules_eq_ok _).mp made
  refine ⟨?_, made⟩
  cases rules with
  | none =>
    rw [← Except.ok.inj given]
    exact RuleSet.fits_default
  | some path =>
    obtain ⟨text, _, read⟩ := ofPath_eq_ok.mp given
    exact RuleSet.fits_ofYaml read

theorem policyFor_written (inUse : policyFor table tree rules = .ok policy) {tree' : Entry}
    {path : String} (file : tree'.read path = .ok policy.rules.toYaml) :
    policyFor table tree' (some path) = .ok policy := by
  obtain ⟨fits, made⟩ := policyFor_rules inUse
  refine policyFor_eq_ok.mpr ⟨policy.rules, ?_, made⟩
  exact ofPath_eq_ok.mpr ⟨_, file, RuleSet.ofYaml_toYaml fits⟩

variable {arguments : List String} {environment : List (String × String)} {i : Invocation}

theorem run_rules (asked : invocation arguments = .ok i) (isRules : i.action = .rules)
    (done : (run table arguments environment files).code = 0) :
    ∃ policy, policyFor table files.tree i.rules = .ok policy ∧
      run table arguments environment files = .done true policy.rules.toYaml := by
  unfold run at done ⊢
  simp only [asked] at done ⊢
  cases settings : Settings.ofEnvironment environment with
  | error fault => cases fault <;> simp [settings, Result.panic] at done
  | ok _ =>
    simp only [settings, runInvocation] at done ⊢
    cases inUse : policyFor table files.tree i.rules with
    | error e => simp [inUse, Result.failure] at done
    | ok policy => exact ⟨policy, rfl, by simp only [isRules]⟩

/-- Reading undoes writing, for every rule set. So what a run writes of its rules is a file from
which any other run makes the same policy. -/
theorem written_rules_read_back :
    (∀ r : RuleSet, r.security.Fits → RuleSet.ofYaml r.toYaml = .ok r) ∧
      ∀ (table : Text.PropertyTable) (arguments : List String)
        (environment : List (String × String)) (files : Files) (i : Invocation),
        invocation arguments = .ok i → i.action = .rules →
          (run table arguments environment files).code = 0 →
            ∃ policy, policyFor table files.tree i.rules = .ok policy ∧
              (run table arguments environment files).out = policy.rules.toYaml ∧
              ∀ (tree : Entry) (path : String),
                tree.read path = .ok (run table arguments environment files).out →
                  policyFor table tree (some path) = .ok policy := by
  refine ⟨fun r fits => RuleSet.ofYaml_toYaml fits, ?_⟩
  intro table arguments environment files i asked isRules done
  obtain ⟨policy, inUse, result⟩ := run_rules asked isRules done
  have written : (run table arguments environment files).out = policy.rules.toYaml := by
    rw [result]
    rfl
  refine ⟨policy, inUse, written, fun tree path file => ?_⟩
  exact policyFor_written inUse (written ▸ file)

theorem oddRules_read_back :
    RuleSet.ofYaml (RuleSet.toYaml
        { version := "1.0",
          requiredTags := ["", "true", " - a: b\n\n", "it's\t\"so\"", "\u2028x"],
          expectedProject := "0x1F\r\n", managedByValues := [],
          security := { minBackupDays := -9223372036854775808, storageTier := "# ~" } }) =
      .ok { version := "1.0",
            requiredTags := ["", "true", " - a: b\n\n", "it's\t\"so\"", "\u2028x"],
            expectedProject := "0x1F\r\n", managedByValues := [],
            security := { minBackupDays := -9223372036854775808, storageTier := "# ~" } } ∧
      ∃ policy, policyFor Text.noProperties .empty none = .ok policy ∧
        policyFor Text.noProperties (.directory [("policy.yaml",
          .file (some (run Text.noProperties ["rules"] [] { tree := .empty }).out))])
          (some "policy.yaml") = .ok policy := by
  have done : (run Text.noProperties ["rules"] [] { tree := .empty }).code = 0 := by
    have asked : invocation ["rules"] = .ok ⟨none, false, .rules⟩ := rfl
    have settings : Settings.ofEnvironment [] = .ok {} := rfl
    simp [run, asked, settings, runInvocation, policyFor_default, Result.done]
  have file (text : String) :
      (Entry.directory [("policy.yaml", .file (some text))]).read "policy.yaml" = .ok text := by
    have names : Path.names "policy.yaml" = ["policy.yaml"] := by decide +kernel
    have noDirectory : Path.asksForDirectory "policy.yaml" = false := by decide
    simp [Entry.read, Entry.find, names, Entry.at?, noDirectory, bind, Except.bind]
  obtain ⟨policy, inUse, _, again⟩ :=
    written_rules_read_back.2 Text.noProperties ["rules"] [] { tree := .empty }
      ⟨none, false, .rules⟩ rfl rfl done
  exact ⟨written_rules_read_back.1 _ ⟨by decide, by decide⟩, policy, inUse, again _ _ (file _)⟩

end InfraLint.Command
