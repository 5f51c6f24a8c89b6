import InfraLint.Audit.Tagging
import InfraLint.Proofs.Audit.NameValues
import InfraLint.Proofs.Source.Sequence

/-!
Resources that stand in one source are judged apart. Where a source is nothing but resources, the
tag audit says of it what it says of each resource alone, one after another, and so does the naming
audit about the names of the resources.
-/
namespace InfraLint
open Source Text

/-- Whether the finding is about the name of a resource, and not about a value. -/
def FindingKind.isIdentifier (kind : FindingKind) : Bool :=
  kind = .resourceNaming || kind = .genericName

namespace Audit

variable {pieces : List Piece} {content : String}

section Naming
open Naming

variable (policy : Policy)

theorem declarationFindings_isIdentifier {d : Declaration} {f : Finding}
    (member : f ∈ declarationFindings policy d) : f.kind.isIdentifier = true := by
  simp only [declarationFindings, List.mem_append] at member
  rcases member with casing | generic
  · split at casing
    · simp at casing
    · obtain rfl := List.mem_singleton.mp casing
      rfl
  · split at generic
    · obtain rfl := List.mem_singleton.mp generic
      rfl
    · simp at generic

theorem identifier_findings (content : String) :
    (Naming.findings policy .terraform content).filter (·.kind.isIdentifier) =
      (declarations .terraform content).flatMap (declarationFindings policy) := by
  have declared : ((declarations .terraform content).flatMap
      (declarationFindings policy)).filter (·.kind.isIdentifier) =
        (declarations .terraform content).flatMap (declarationFindings policy) := by
    rw [List.filter_eq_self]
    intro f member
    obtain ⟨d, _, found⟩ := List.mem_flatMap.mp member
    exact declarationFindings_isIdentifier policy found
  have assigned : ((assignments content).flatMap
      (assignmentFindings policy)).filter (·.kind.isIdentifier) = [] := by
    rw [List.filter_eq_nil_iff]
    intro f member
    obtain ⟨a, _, found⟩ := List.mem_flatMap.mp member
    rw [assignmentFindings_kind found]
    decide
  rw [Naming.findings, List.filter_append, declared, assigned, List.append_nil]

theorem identifier_findings_sequence (written : Sequence pieces content.toList) :
    (Naming.findings policy .terraform content).filter (·.kind.isIdentifier) =
      pieces.flatMap fun p => declarationFindings policy p.declaration := by
  rw [identifier_findings, declarations_sequence written, List.flatMap_map]

end Naming

section Tagging
open Tagging

variable (rules : RuleSet)

/-- What the tag audit has to say about the block of a piece, if the piece has one. -/
def pieceFindings (p : Piece) : List Finding :=
  if p.Shallow then blockFindings rules p.block else []

theorem findings_sequence (written : Sequence pieces content.toList) {fileName : String}
    (elsewhere : fileName ≠ variablesFile) :
    Tagging.findings rules .terraform fileName content = pieces.flatMap (pieceFindings rules) := by
  have each (p : Piece) : (if p.Shallow then [p.block] else []).flatMap (blockFindings rules) =
      pieceFindings rules p := by
    unfold pieceFindings
    split <;> simp
  rw [Tagging.findings, if_neg (fun shared => elsewhere shared.2), List.append_nil,
    blocks_sequence written, ← Naming.flatMap_if, List.flatMap_assoc]
  exact List.flatMap_congr fun p _ => each p

end Tagging

/-- A source of nothing but resources declares them in their order, and those that nest no deeper
than a block may are its blocks. The tag audit reports of it, one after another, what it reports of
each resource alone, which is nothing for the deeper ones; so does the naming audit about the
names of the resources. -/
theorem resources_judged_apart (written : Sequence pieces content.toList) :
    declarations .terraform content = pieces.map Piece.declaration ∧
    blocks .terraform content = (pieces.filter Piece.Shallow).map Piece.block ∧
    (∀ (rules : RuleSet) (fileName : String), fileName ≠ Tagging.variablesFile →
      Tagging.findings rules .terraform fileName content =
          pieces.flatMap (fun p => Tagging.findings rules .terraform fileName p.source) ∧
        ∀ p ∈ pieces, ¬ p.Shallow → Tagging.findings rules .terraform fileName p.source = []) ∧
    ∀ policy : Policy,
      (Naming.findings policy .terraform content).filter (·.kind.isIdentifier) =
        pieces.flatMap fun p =>
          (Naming.findings policy .terraform p.source).filter (·.kind.isIdentifier) := by
  refine ⟨declarations_sequence written, blocks_sequence written, ?_, ?_⟩
  · intro rules fileName elsewhere
    have alone (p : Piece) :
        Tagging.findings rules .terraform fileName p.source = pieceFindings rules p := by
      rw [findings_sequence rules p.sequence elsewhere, List.flatMap_singleton]
    simp only [alone, findings_sequence rules written elsewhere, true_and]
    intro p _ deep
    exact if_neg deep
  · intro policy
    have alone (p : Piece) :
        (Naming.findings policy .terraform p.source).filter (·.kind.isIdentifier) =
          Naming.declarationFindings policy p.declaration := by
      rw [identifier_findings_sequence policy p.sequence, List.flatMap_singleton]
    simp only [alone, identifier_findings_sequence policy written]

/- An app whose settings nest too deep for a block, and a vault without tags behind it. -/
def plainHeader (kind name : String) : List Char :=
  "resource".toList ++ [' '] ++ '"' :: kind.toList ++ '"' :: [' '] ++ '"' :: name.toList ++ ['"']

theorem plainHeader_text {kind name : String} (kindText : Quotable '"' kind.toList)
    (nameText : Quotable '"' name.toList) :
    HeaderText ⟨.terraform, kind, name⟩ (plainHeader kind name) := by
  have gap : Gap [' '] := ⟨by decide, space_allBlank⟩
  have header := HeaderText.terraform gap kindText gap nameText
  rwa [String.ofList_toList, String.ofList_toList] at header

theorem once_of_tails {text : List Char} (silent : ∀ v ∈ text.tail.tails, ¬ Opens v) :
    ∀ u v, text = u ++ v → Opens v → u = [] := by
  rintro u v rfl opens
  cases u with
  | nil => rfl
  | cons c u => exact absurd opens (silent v (by simp))

def deepApp : Piece where
  kind := "azurerm_linux_web_app"
  name := "api"
  head := plainHeader "azurerm_linux_web_app" "api"
  space := [' ']
  body := " site_config \x7b stack \x7b docker \x7b image = 1 \x7d \x7d \x7d ".toList
  header := plainHeader_text ⟨by decide, by decide⟩ ⟨by decide, by decide⟩
  blank := space_allBlank
  balanced := ⟨3, by decide +kernel⟩
  once := once_of_tails (by decide +kernel)

def mainVault : Piece where
  kind := "azurerm_key_vault"
  name := "main"
  head := plainHeader "azurerm_key_vault" "main"
  space := [' ']
  body := " sku = 1 ".toList
  header := plainHeader_text ⟨by decide, by decide⟩ ⟨by decide, by decide⟩
  blank := space_allBlank
  balanced := ⟨0, by decide +kernel⟩
  once := once_of_tails (by decide +kernel)

def appAndVault : String := .ofList (deepApp.text ++ ('\n' :: mainVault.text))

theorem appAndVault_sequence : Sequence [deepApp, mainVault] appAndVault.toList := by
  have none : AllBlank [] := allBlank_of_all rfl
  have feed : AllBlank ['\n'] := allBlank_of_all (by decide)
  have vault : Sequence [mainVault] (['\n'] ++ (mainVault.text ++ [])) := .piece feed (.done none)
  have both := Sequence.piece (p := deepApp) none vault
  rw [appAndVault, String.toList_ofList]
  simpa using both

theorem vault_judged_behind_app :
    blocks .terraform appAndVault = [mainVault.block] ∧
      Tagging.findings {} .terraform "main.tf" appAndVault =
        [⟨.missingTags, "azurerm_key_vault.main",
          "Resource 'azurerm_key_vault.main' is missing tags block"⟩] := by
  obtain ⟨_, found, tagging, _⟩ := resources_judged_apart appAndVault_sequence
  have deep : ¬ deepApp.Shallow := by decide +kernel
  have shallow : mainVault.Shallow := by decide +kernel
  obtain ⟨apart, nothing⟩ := tagging {} "main.tf" (by decide)
  constructor
  · rw [found]
    simp [deep, shallow]
  · rw [apart, List.flatMap_cons, nothing deepApp (by simp) deep, List.flatMap_singleton]
    decide +kernel

end Audit
end InfraLint
