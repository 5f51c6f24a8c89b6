import InfraLint.Proofs.Json.Kinds
import InfraLint.Proofs.Resource.Evaluations

/-!
What a tree means as a plan. A text is read as a plan exactly if its tree means one, and then as
that plan.
-/
namespace InfraLint
open Json Reader

variable {s t rest w : List Char} {fuel room : Nat}

/-! Meanings -/

def Attributes.ofTree? (room : Nat) (t : Tree) : Option Attributes :=
  (Tree.value? room t).bind fun v => (Attributes.ofJson v).toOption

namespace Resource

def fieldNames : List String := ["type", "name", "config"]

def memberOf? (room : Nat) (key : String) (t : Tree) (fs : Fields) : Option Fields :=
  match key with
  | "type" => (field? fs.kind t.string?).map fun kind => { fs with kind }
  | "name" => (field? fs.name t.string?).map fun name => { fs with name }
  | "config" => (field? fs.config (Attributes.ofTree? room t)).map fun config => { fs with config }
  | _ => some fs

def ofFields? (fs : Fields) : Option Resource := do
  return ⟨← fs.kind, ← fs.name, fs.config.getD .empty⟩

def ofMembers? (room : Nat) (members : List (List Piece × Tree)) : Option Resource :=
  (foldMembers? (memberOf? room) members {}).bind ofFields?

def ofItems? (room : Nat) : List Tree → Option Resource
  | [kind, name] => do return ⟨← kind.string?, ← name.string?, .empty⟩
  | [kind, name, config] => do
    return ⟨← kind.string?, ← name.string?, ← Attributes.ofTree? room config⟩
  | _ => none

def ofTree? (room : Nat) (t : Tree) : Option Resource := Tree.record? ofMembers? ofItems? room t

end Resource

namespace Plan

def fieldNames : List String := ["resources"]

def memberOf? (room : Nat) (key : String) (t : Tree) (known : Option (List Resource)) :
    Option (Option (List Resource)) :=
  match key with
  | "resources" => field? known (Tree.listOf? Resource.ofTree? room t)
  | _ => some known

def ofMembers? (room : Nat) (members : List (List Piece × Tree)) : Option Plan :=
  (foldMembers? (memberOf? room) members none).bind fun resources => resources.map Plan.mk

def ofItems? (room : Nat) : List Tree → Option Plan
  | [resources] => (Tree.listOf? Resource.ofTree? room resources).map Plan.mk
  | _ => none

def ofTree? (t : Tree) : Option Plan := Tree.record? ofMembers? ofItems? deepest t

end Plan

/-! Readings -/

theorem makes_attributes {t : Tree} (room : Nat) (written : Written t s)
    (enough : s.length < fuel) :
    Makes (Attributes.reader fuel room) s (Attributes.ofTree? room t) := by
  intro w rest white stops
  have value := makes_value written enough room w rest white stops
  have refused (other : ∀ as place last, Json.Reader.value fuel room ⟨place, w ++ (s ++ rest)⟩ ≠
      .ok (Attributes.toJson as, last)) :
      Fails (Attributes.reader fuel room) (w ++ (s ++ rest)) := by
    intro place
    cases taken : Attributes.reader fuel room ⟨place, w ++ (s ++ rest)⟩ with
    | error failure => exact ⟨failure, rfl⟩
    | ok pair => exact (other _ _ _ (Attributes.reader_eq_ok.mp taken)).elim
  unfold Attributes.ofTree?
  cases made : Tree.value? room t with
  | none =>
    rw [made] at value
    refine refused fun as place last taken => ?_
    obtain ⟨failure, failed⟩ := value place
    cases failed.symm.trans taken
  | some v =>
    rw [made] at value
    rw [Option.bind_some]
    cases held : Attributes.ofJson v with
    | ok as =>
      obtain rfl := Attributes.ofJson_eq_ok.mp held
      intro place
      obtain ⟨last, taken⟩ := value place
      exact ⟨last, Attributes.reader_eq_ok.mpr taken⟩
    | error e =>
      refine refused fun as place last taken => ?_
      obtain ⟨last', taken'⟩ := value place
      have same := taken'.symm.trans taken
      simp only [Except.ok.injEq, Prod.mk.injEq] at same
      cases held.symm.trans (Attributes.ofJson_eq_ok.mpr same.1)

namespace Resource

theorem memberOf?_of_not_mem {key : String} (room : Nat) (unknown : key ∉ fieldNames) (t : Tree) :
    memberOf? room key t = some := by
  funext fs
  unfold memberOf?
  split
  · exact absurd (by decide) unknown
  · exact absurd (by decide) unknown
  · exact absurd (by decide) unknown
  · rfl

theorem taken_member {m : Member} (room : Nat) (inside : m.In fuel) :
    m.Taken (member fuel room) (memberOf? room) := by
  intro key fs rest stops
  have text : Makes (stringValue fuel) m.text m.tree.string? := makes_stringValue inside.isWritten
  unfold member
  split
  · exact (answers_field inside text stops).map _
  · exact (answers_field inside text stops).map _
  · exact (answers_field inside (makes_attributes room inside.isWritten inside.shorter) stops).map _
  · rename_i noType noName noConfig
    rw [memberOf?_of_not_mem room (by simpa [fieldNames] using ⟨noType, noName, noConfig⟩)]
    exact (reads_skipMember inside stops).bind (reads_pure fs rest)

theorem answers_ofMembers {members : List Member} (inside : ∀ m ∈ members, m.In fuel)
    (enough : members.length < fuel) {space : List Char} (white : AllWhite space)
    (rest : List Char) :
    Answers (enclosed (ofMembers fuel room) '}') (objectText space members rest)
      (ofMembers? room (members.map Member.pair)) rest := by
  apply answers_enclosedObject allWhite_nil
  have content := answers_content inside
    (fun m member => taken_member room (inside m member)) enough white rest {}
  refine content.bind fun fs _ => ?_
  refine (answers_required "type" fs.kind _).bind fun kind _ => ?_
  exact (answers_required "name" fs.name _).bind fun name _ => reads_pure _ _

theorem answers_ofItems {items : List Item} (inside : ∀ i ∈ items, i.In fuel)
    {space : List Char} (white : AllWhite space) (rest : List Char) :
    Answers (enclosed (ofItems fuel room) ']') (listText space items rest)
      (ofItems? room (items.map Item.tree)) rest := by
  have text (i : Item) (member : i ∈ items) : Makes (stringValue fuel) i.text i.tree.string? :=
    makes_stringValue (inside i member).isWritten
  cases items with
  | nil => exact ((fails_positional (reads_listEnd white rest)).bind _).enclosed
  | cons kind items =>
  simp only [List.forall_mem_cons] at inside text
  obtain ⟨insideKind, inside⟩ := inside
  obtain ⟨ofKind, text⟩ := text
  have first := answers_firstField (.wrongLength 0 "struct PlanResource with 3 elements")
    insideKind white items rest ofKind
  cases items with
  | nil =>
    have ends : Reads (anotherItem false) _ false _ := reads_listEnd insideKind.spaced.after rest
    exact Fails.enclosed (first.fails_bind fun _ => (fails_positional ends).bind _)
  | cons name items =>
  simp only [List.forall_mem_cons] at inside text
  obtain ⟨insideName, inside⟩ := inside
  have second := answers_nextField (.wrongLength 1 "struct PlanResource with 3 elements")
    insideName insideKind.spaced.after items rest text.1
  cases items with
  | nil =>
    refine answers_enclosedList allWhite_nil (first.bind fun kind _ => second.bind fun name _ => ?_)
    exact (reads_listEnd insideName.spaced.after rest).bind (reads_pure _ _)
  | cons config items =>
  obtain ⟨insideConfig, inside⟩ := List.forall_mem_cons.mp inside
  have third := (makes_attributes room insideConfig.isWritten insideConfig.shorter).item
    insideConfig items rest
  have more := insideConfig.next insideName.spaced.after items rest
  have content : Answers (ofItems fuel room) (listText space (kind :: name :: config :: items) rest)
      (ofItems? room [kind.tree, name.tree, config.tree])
      (behindItem config.after items rest) := first.bind fun kind _ =>
    second.bind fun name _ => more.answers_bind (third.bind fun config _ => reads_pure _ _)
  cases items with
  | nil => exact answers_enclosedList insideConfig.spaced.after content
  | cons other items => exact fails_moreLeft content insideConfig.spaced.after

theorem makes_resource {t : Tree} (written : Written t s) (enough : s.length < fuel) :
    Makes (reader fuel room) s (ofTree? room t) :=
  makes_record written enough
    (fun _ _ _ rest white inside few => answers_ofMembers inside few white rest)
    (fun _ _ _ rest white inside => answers_ofItems inside white rest)

end Resource

namespace Plan

theorem memberOf?_of_not_mem {key : String} (room : Nat) (unknown : key ∉ fieldNames) (t : Tree) :
    memberOf? room key t = some := by
  funext known
  unfold memberOf?
  split
  · exact absurd (by decide) unknown
  · rfl

theorem makes_resources {t : Tree} (room : Nat) (written : Written t s) (enough : s.length < fuel) :
    Makes (listOf fuel room (Resource.reader fuel)) s (Tree.listOf? Resource.ofTree? room t) :=
  makes_listOf written enough fun _ _ inside =>
    Resource.makes_resource inside.isWritten inside.shorter

theorem taken_member {m : Member} (room : Nat) (inside : m.In fuel) :
    m.Taken (member fuel room) (memberOf? room) := by
  intro key known rest stops
  unfold member
  split
  · exact answers_field inside (makes_resources room inside.isWritten inside.shorter) stops
  · rename_i noResources
    rw [memberOf?_of_not_mem room (by simpa [fieldNames] using noResources)]
    exact (reads_skipMember inside stops).bind (reads_pure known rest)

theorem answers_ofMembers {members : List Member} (inside : ∀ m ∈ members, m.In fuel)
    (enough : members.length < fuel) {space : List Char} (white : AllWhite space)
    (rest : List Char) :
    Answers (enclosed (ofMembers fuel room) '}') (objectText space members rest)
      (ofMembers? room (members.map Member.pair)) rest := by
  apply answers_enclosedObject allWhite_nil
  have content := answers_content inside
    (fun m member => taken_member room (inside m member)) enough white rest none
  exact content.bind fun resources _ => (answers_required "resources" resources _).map Plan.mk

theorem answers_ofItems {items : List Item} (inside : ∀ i ∈ items, i.In fuel)
    {space : List Char} (white : AllWhite space) (rest : List Char) :
    Answers (enclosed (ofItems fuel room) ']') (listText space items rest)
      (ofItems? room (items.map Item.tree)) rest := by
  cases items with
  | nil => exact ((fails_positional (reads_listEnd white rest)).bind _).enclosed
  | cons resources items =>
  obtain ⟨here, _⟩ := List.forall_mem_cons.mp inside
  have made := makes_resources room here.isWritten here.shorter
  have content : Answers (ofItems fuel room) _ _ _ :=
    (answers_firstField _ here white items rest made).map Plan.mk
  cases items with
  | nil => exact answers_enclosedList here.spaced.after content
  | cons other items => exact fails_moreLeft content here.spaced.after

theorem makes_plan {t : Tree} (written : Written t s) (enough : s.length < fuel) :
    Makes (record fuel deepest "Plan" (ofMembers fuel) (ofItems fuel)) s (ofTree? t) :=
  makes_record written enough
    (fun _ _ _ rest white inside few => answers_ofMembers inside few white rest)
    (fun _ _ _ rest white inside => answers_ofItems inside white rest)

/-- A text is read as the plan that its tree means, and refused if it means none. -/
theorem read_document {t : Tree} {text : String} (document : Document t text) (plan : Plan) :
    read text = .ok plan ↔ ofTree? t = some plan := by
  exact run_document document fun written enough => makes_plan written enough

end Plan

end InfraLint
