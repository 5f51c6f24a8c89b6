import InfraLint.Proofs.Audit.SeparateResources
import InfraLint.Proofs.Audit.TagFindings
import InfraLint.Proofs.Audit.WrittenTags
import InfraLint.Proofs.Source.ReferredTags

/-!
Resources whose tags are set by reference. The argument itself is never judged, but the search for
a map goes through the whole body: a map that stands in an inner block, or behind a longer name that
ends in `tags`, is judged in its place.
-/
namespace InfraLint.Audit.Tagging
open Source Text

variable {rules : RuleSet} {fileName content : String} {before after : List Block} {b : Block}
  {w : ReferredTags}

/- Nothing is wrong with a text that is taken for the map of a Terraform resource. -/
structure Flawless (rules : RuleSet) (tags : String) : Prop where
  complete : Interpolated .terraform tags ∨ ∀ tag ∈ rules.requiredTags, Within tag tags
  project : ¬ NamesOther rules tags

theorem extracted_language {language : Language}
    (extracted : blocks language content = before ++ b :: after) : b.language = language := by
  have scan := scan_iff_blocks.mpr extracted
  obtain ⟨_, _, _, _, _, _, same, _⟩ := starts_of_mem scan (a := b) (by simp)
  exact same

theorem requiredFaults_eq_nil {d : Declaration} {tags : String}
    (terraform : d.language = .terraform) : requiredFaults rules d tags = [] ↔
      Interpolated .terraform tags ∨ ∀ tag ∈ rules.requiredTags, Within tag tags := by
  rw [requiredFaults, terraform]
  by_cases interpolated : Interpolated .terraform tags
  · simp [interpolated]
  · simp [interpolated, List.filter_eq_nil_iff]

theorem faults_eq_nil_iff {d : Declaration} {tags : String} (terraform : d.language = .terraform) :
    requiredFaults rules d tags ++ projectFaults rules d tags = [] ↔ Flawless rules tags := by
  rw [List.append_eq_nil_iff, requiredFaults_eq_nil terraform]
  constructor
  · intro h
    obtain ⟨complete, project⟩ := h
    refine ⟨complete, ?_⟩
    intro other
    simp [projectFaults, other] at project
  · intro flawless
    exact ⟨flawless.complete, by simp [projectFaults, flawless.project]⟩

theorem referred_mentioned (terraform : b.language = .terraform)
    (written : b.body.toList = w.body) : Mentioned b := by
  have tags : Within "tags" b.body :=
    ⟨w.front, w.gap ++ '=' :: (w.space ++ w.behind), by
      rw [written, ReferredTags.body, ReferredTags.argument, List.append_assoc]⟩
  simp only [Mentioned, terraform]
  exact Or.inl tags

theorem referred_elsewhere (terraform : b.language = .terraform)
    (written : b.body.toList = w.body) : SetElsewhere b := by
  obtain ⟨root, u, v, isRoot, value⟩ := reference_root w.reference
  have inside : ∃ x y, b.body.toList = x ++ root ++ y := by
    refine ⟨w.front ++ ("tags".toList ++ (w.gap ++ '=' :: (w.space ++ u))), v ++ w.back, ?_⟩
    simp [written, ReferredTags.body, ReferredTags.argument, ReferredTags.behind, value]
  simp only [SetElsewhere, terraform]
  rcases isRoot with rfl | rfl
  · exact Or.inr (Or.inl inside)
  · exact Or.inr (Or.inr inside)

/-- The group of such a block is that of the first map which stands anywhere in its body. -/
theorem blockFindings_referred_iff (terraform : b.language = .terraform)
    (judged : ¬ Exempt rules b.kind) (written : b.body.toList = w.body) :
    blockFindings rules b = [] ↔
      ∀ tags : String, First (fun _ => TagsAt .terraform) none b.body.toList tags.toList →
        Flawless rules tags := by
  have mentioned := referred_mentioned terraform written
  constructor
  · intro nothing tags first
    rw [← terraform] at first
    have group := blockFindings_of_reported (.mapped judged mentioned first)
    exact (faults_eq_nil_iff terraform).mp (group.symm.trans nothing)
  · intro flawless
    cases found : tagMap? .terraform b.body with
    | none =>
      have unmapped := tagMap?_eq_none.mp found
      rw [← terraform] at unmapped
      exact blockFindings_of_reported
        (.elsewhere judged mentioned unmapped (referred_elsewhere terraform written))
    | some tags =>
      have first := tagMap?_eq_some.mp found
      have group := (faults_eq_nil_iff (d := b.toDeclaration) terraform).mpr (flawless tags first)
      rw [← terraform] at first
      exact (blockFindings_of_reported (.mapped judged mentioned first)).trans group

/-- A resource whose tags are a reference has no findings exactly when nothing is wrong with the
first map in its body. No map is there if none strays in front of the argument or behind it. -/
theorem referred_tags_unflagged_iff (extracted : blocks .terraform content = before ++ b :: after)
    (judged : ¬ Exempt rules b.kind) (written : b.body.toList = w.body) :
    (findings rules .terraform fileName content =
        otherFindings rules .terraform fileName content (before ++ after) ↔
      ∀ tags : String, First (fun _ => TagsAt .terraform) none b.body.toList tags.toList →
        Flawless rules tags) ∧
    (¬ w.Strays → findings rules .terraform fileName content =
      otherFindings rules .terraform fileName content (before ++ after)) := by
  have terraform := extracted_language extracted
  rw [findings_eq_other_iff extracted, blockFindings_referred_iff terraform judged written]
  refine ⟨Iff.rfl, ?_⟩
  intro none tags first
  obtain ⟨u, v, split, stands⟩ := first_place first
  exact absurd (ReferredTags.strays_of_mapped (written ▸ split) stands) none

/- A cluster whose tags stand behind its node pool. -/
def cluster (pool : String) {value : List Char} (reference : Reference value) : ReferredTags where
  front := "\n  default_node_pool \x7b\n    ".toList ++ pool.toList ++ "\n  \x7d\n  ".toList
  gap := [' ']
  space := [' ']
  value := value
  back := ['\n']
  gap_blank := space_allBlank
  space_blank := space_allBlank
  reference := reference

def clusterBlock (w : ReferredTags) : Block :=
  ⟨⟨.terraform, "azurerm_kubernetes_cluster", "k"⟩, .ofList w.body⟩

def clusterText (w : ReferredTags) : String :=
  .ofList (plainHeader "azurerm_kubernetes_cluster" "k" ++ [' '] ++ '{' :: w.body ++ '}' :: ['\n'])

theorem blocks_clusterText {w : ReferredTags} (balanced : Balanced innerLevels w.body) :
    blocks .terraform (clusterText w) = [] ++ clusterBlock w :: [] := by
  have header := @plainHeader_text "azurerm_kubernetes_cluster" "k"
    ⟨by decide, by decide⟩ ⟨by decide, by decide⟩
  exact blocks_single header space_allBlank balanced feed_allBlank

theorem cluster_judged : ¬ Exempt {} "azurerm_kubernetes_cluster" := by
  rw [← exempt_iff]
  decide +kernel

theorem variable_reference : Reference ("var.".toList ++ "tags".toList) :=
  .variablePath ⟨by decide, by decide⟩

theorem merged_reference : Reference ("merge".toList ++ '(' :: ([] ++
    ("local.".toList ++ "common_tags".toList ++ (", \x7b Pool = 1 \x7d".toList ++ [')'])))) :=
  .call ⟨by decide, List.all_eq_true.mp (by decide)⟩ (.localPath ⟨by decide, by decide⟩)

def mergedCluster : ReferredTags := cluster "vm_size = 2" merged_reference

def taggedPool : ReferredTags :=
  cluster "tags = \x7b\n      Pool = \"system\"\n    \x7d" variable_reference

theorem mergedCluster_unflagged : findings {} .terraform "main.tf" (clusterText mergedCluster) =
    otherFindings {} .terraform "main.tf" (clusterText mergedCluster) [] := by
  have extracted := blocks_clusterText (w := mergedCluster) (by decide +kernel)
  have written : (clusterBlock mergedCluster).body.toList = mergedCluster.body :=
    String.toList_ofList
  have unmapped : tagMap? .terraform (clusterBlock mergedCluster).body = none := by
    decide +kernel
  refine (referred_tags_unflagged_iff extracted cluster_judged written).1.mpr ?_
  intro tags first
  simp [tagMap?_eq_some.mpr first] at unmapped

/-- The tags of the node pool are judged as if they were those of the cluster. -/
theorem pool_tags_flagged :
    ¬∀ (rules : RuleSet) (fileName content : String) (before after : List Block) (b : Block)
      (w : ReferredTags),
      blocks .terraform content = before ++ b :: after → ¬ Exempt rules b.kind →
      b.body.toList = w.body → w.IsOwn →
      findings rules .terraform fileName content =
        otherFindings rules .terraform fileName content (before ++ after) := by
  intro neverJudged
  have extracted := blocks_clusterText (w := taggedPool) (by decide +kernel)
  have written : (clusterBlock taggedPool).body.toList = taggedPool.body := String.toList_ofList
  have own : taggedPool.IsOwn := ⟨by decide +kernel, by decide +kernel⟩
  have flagged : blockFindings {} (clusterBlock taggedPool) ≠ [] := by decide +kernel
  have same := neverJudged {} "main.tf" _ [] [] _ _ extracted cluster_judged written own
  exact flagged ((findings_eq_other_iff extracted).mp same)

end InfraLint.Audit.Tagging
