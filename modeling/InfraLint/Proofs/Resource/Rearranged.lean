import InfraLint.Proofs.Resource.PlanFields
import Mathlib.Logic.Relation

/-!
Plans that are written in another way. The order of members, members that no field takes and an
empty `config` make no difference to the plan that is read. A field that is missing or given twice,
or a `config` that is no object, makes the whole text be refused.
-/
namespace InfraLint
open Json

/-! What a value stands for -/

inductive PlanPart where
  | plan
  | resources
  | resource
  | value

namespace PlanPart

def fields : PlanPart → List String
  | plan => Plan.fieldNames
  | resource => Resource.fieldNames
  | _ => []

def isRecord : PlanPart → Bool
  | plan | resource => true
  | _ => false

def required : PlanPart → List String
  | plan => ["resources"]
  | resource => ["type", "name"]
  | _ => []

def member : PlanPart → List Piece → PlanPart
  | plan, name => if string? name = some "resources" then resources else value
  | _, _ => value

def item : PlanPart → PlanPart
  | plan => resources
  | resources => resource
  | _ => value

end PlanPart

/-- The second tree differs from the first in one place, where members have changed places, or a
member has been added that makes no difference. -/
inductive Rearranges : PlanPart → Tree → Tree → Prop where
  | permuted {part : PlanPart} {members members' : List (List Piece × Tree)}
      (apart : members.Pairwise Apart) (perm : members.Perm members') :
      Rearranges part (.object members) (.object members')
  | added {part : PlanPart} (before after : List (List Piece × Tree)) {name : List Piece}
      {key : String} (record : part.isRecord = true) (named : string? name = some key)
      (unknown : key ∉ part.fields) (t : Tree) :
      Rearranges part (.object (before ++ after)) (.object (before ++ (name, t) :: after))
  | emptyConfig (before after : List (List Piece × Tree)) {name : List Piece}
      (named : string? name = some "config") (absent : Unnamed "config" (before ++ after)) :
      Rearranges .resource (.object (before ++ after))
        (.object (before ++ (name, .object []) :: after))
  | inMember {part : PlanPart} (before after : List (List Piece × Tree)) {name : List Piece}
      {t t' : Tree} (inside : Rearranges (part.member name) t t') :
      Rearranges part (.object (before ++ (name, t) :: after))
        (.object (before ++ (name, t') :: after))
  | inItem {part : PlanPart} (before after : List Tree) {t t' : Tree}
      (inside : Rearranges part.item t t') :
      Rearranges part (.array (before ++ t :: after)) (.array (before ++ t' :: after))

/-- In one place a required field is missing, a field is given twice, or a `config` is no object. -/
inductive Faulty : PlanPart → Tree → Prop where
  | missing {part : PlanPart} {members : List (List Piece × Tree)} {key : String}
      (required : key ∈ part.required) (absent : Unnamed key members) :
      Faulty part (.object members)
  | repeated {part : PlanPart} {before between after : List (List Piece × Tree)}
      {m n : List Piece × Tree} {key : String} (field : key ∈ part.fields)
      (first : string? m.1 = some key) (second : string? n.1 = some key) :
      Faulty part (.object (before ++ m :: (between ++ n :: after)))
  | noObject {members : List (List Piece × Tree)} {name : List Piece} {t : Tree}
      (member : (name, t) ∈ members) (named : string? name = some "config")
      (other : ∀ members, t ≠ .object members) : Faulty .resource (.object members)
  | inMember {part : PlanPart} {members : List (List Piece × Tree)} {name : List Piece} {t : Tree}
      (member : (name, t) ∈ members) (inside : Faulty (part.member name) t) :
      Faulty part (.object members)
  | inItem {part : PlanPart} {items : List Tree} {t : Tree} (member : t ∈ items)
      (inside : Faulty part.item t) : Faulty part (.array items)

/-! What stays the same -/

/-- Both trees mean the same in that part of a plan. Plans are at the top, and there is room for
the levels below them. -/
def PlanPart.Agree : PlanPart → Tree → Tree → Prop
  | plan, t, t' => Plan.ofTree? t = Plan.ofTree? t'
  | resources, t, t' => ∀ room, Tree.listOf? Resource.ofTree? (room + 3) t =
      Tree.listOf? Resource.ofTree? (room + 3) t'
  | resource, t, t' => ∀ room, Resource.ofTree? (room + 2) t = Resource.ofTree? (room + 2) t'
  | value, t, t' => (∀ room, Tree.value? room t = Tree.value? room t') ∧ t.string? = t'.string?

theorem mapM_replaced {α : Type} {f : Tree → Option α} {t t' : Tree} (same : f t = f t')
    (before after : List Tree) :
    (before ++ t :: after).mapM f = (before ++ t' :: after).mapM f := by
  simp only [List.mapM_append, List.mapM_cons, same]

section Objects

variable {members members' before after : List (List Piece × Tree)} {name : List Piece}
  {t t' : Tree} {part : PlanPart}

/-! Objects mean the same whose members come to the same. -/

theorem agree_plans
    (folded : foldMembers? (Plan.memberOf? (deepest - 1)) members none =
      foldMembers? (Plan.memberOf? (deepest - 1)) members' none) :
    PlanPart.plan.Agree (.object members) (.object members') := by
  show Plan.ofMembers? (deepest - 1) members = Plan.ofMembers? (deepest - 1) members'
  rw [Plan.ofMembers?, Plan.ofMembers?, folded]

theorem agree_resources
    (folded : ∀ room, Resource.ofMembers? (room + 1) members =
      Resource.ofMembers? (room + 1) members') :
    PlanPart.resource.Agree (.object members) (.object members') := folded

theorem agree_values
    (folded : ∀ room, membersOf? (Tree.value? room) members =
      membersOf? (Tree.value? room) members') :
    PlanPart.value.Agree (.object members) (.object members') := by
  refine ⟨fun room => ?_, rfl⟩
  cases room with
  | zero => rfl
  | succ room => exact congrArg (Option.map Json.object) (folded room)

theorem agree_permuted (apart : members.Pairwise Apart) (perm : members.Perm members')
    (part : PlanPart) : part.Agree (.object members) (.object members') := by
  cases part with
  | plan => exact agree_plans (foldMembers?_perm (Plan.commutes _) apart perm none)
  | resources => exact fun _ => rfl
  | resource =>
    refine agree_resources fun room => ?_
    rw [Resource.ofMembers?, foldMembers?_perm (Resource.commutes _) apart perm]
    rfl
  | value =>
    exact agree_values fun room => foldMembers?_perm (inserted?_commutes _) apart perm []

theorem agree_added {key : String} (record : part.isRecord = true)
    (named : string? name = some key) (unknown : key ∉ part.fields) (t : Tree) :
    part.Agree (.object (before ++ after)) (.object (before ++ (name, t) :: after)) := by
  cases part with
  | plan =>
    have passes := Plan.memberOf?_of_not_mem (deepest - 1) unknown t
    exact agree_plans (foldMembers?_passed before after named passes none).symm
  | resource =>
    refine agree_resources fun room => ?_
    have passes := Resource.memberOf?_of_not_mem (room + 1) unknown t
    rw [Resource.ofMembers?, Resource.ofMembers?, foldMembers?_passed before after named passes]
  | resources => cases record
  | value => cases record

theorem agree_emptyConfig (named : string? name = some "config")
    (absent : Unnamed "config" (before ++ after)) :
    PlanPart.resource.Agree (.object (before ++ after))
      (.object (before ++ (name, .object []) :: after)) := by
  refine agree_resources fun room => ?_
  have behind : Unnamed "config" after := fun m member => absent m (List.mem_append_right _ member)
  unfold Resource.ofMembers?
  rw [foldMembers?_last before (Resource.commutes (room + 1)) named (.object []) behind]
  cases folded : foldMembers? (Resource.memberOf? (room + 1)) (before ++ after) {} with
  | none => rfl
  | some fs =>
    have missing := (Resource.records (room + 1)).absent absent folded (by simp [Resource.Given])
    have none : fs.config = none := by simpa [Resource.Given] using missing
    have step : Resource.memberOf? (room + 1) "config" (.object []) fs =
        some { fs with config := some .empty } :=
      congrArg (Option.map _) (field?_eq_some.mpr ⟨none, rfl, rfl⟩)
    simp [step, Resource.ofFields?, none]

theorem agree_inMember (agree : (part.member name).Agree t t') :
    part.Agree (.object (before ++ (name, t) :: after))
      (.object (before ++ (name, t') :: after)) := by
  cases part with
  | plan =>
    refine agree_plans (foldMembers?_replaced before after (fun key known named => ?_) none)
    by_cases field : key ∈ Plan.fieldNames
    · obtain rfl := List.mem_singleton.mp field
      rw [PlanPart.member, if_pos named] at agree
      exact congrArg (field? known) (agree 123)
    · rw [Plan.memberOf?_of_not_mem _ field, Plan.memberOf?_of_not_mem _ field]
  | resources => exact fun _ => rfl
  | resource =>
    refine agree_resources fun room => ?_
    have same (key : String) (fs : Resource.Fields) (_ : string? name = some key) :
        Resource.memberOf? (room + 1) key t fs = Resource.memberOf? (room + 1) key t' fs := by
      unfold Resource.memberOf? Attributes.ofTree?
      rw [agree.1, agree.2]
    rw [Resource.ofMembers?, foldMembers?_replaced before after same]
    rfl
  | value =>
    refine agree_values fun room => foldMembers?_replaced before after (fun key ms _ => ?_) []
    rw [inserted?, inserted?, agree.1]

theorem agree_inItem {before after : List Tree} (agree : part.item.Agree t t') :
    part.Agree (.array (before ++ t :: after)) (.array (before ++ t' :: after)) := by
  cases part with
  | plan =>
    show Plan.ofItems? (deepest - 1) _ = Plan.ofItems? (deepest - 1) _
    cases before with
    | nil =>
      cases after with
      | nil => exact congrArg (Option.map Plan.mk) (agree 123)
      | cons => rfl
    | cons a before => cases before <;> rfl
  | resources => exact fun room => mapM_replaced (agree room) before after
  | resource =>
    intro room
    show Resource.ofItems? (room + 1) _ = Resource.ofItems? (room + 1) _
    have same : Attributes.ofTree? (room + 1) t = Attributes.ofTree? (room + 1) t' := by
      unfold Attributes.ofTree?
      rw [agree.1]
    -- The type, the name, the attributes, and more items than a resource has.
    rcases before with _ | ⟨kind, _ | ⟨name, _ | ⟨config, before⟩⟩⟩
    · rcases after with _ | ⟨name, _ | ⟨config, after⟩⟩
      · rfl
      · simp [Resource.ofItems?, agree.2]
      · cases after <;> simp [Resource.ofItems?, agree.2]
    · rcases after with _ | ⟨config, after⟩
      · simp [Resource.ofItems?, agree.2]
      · cases after <;> simp [Resource.ofItems?, agree.2]
    · cases after <;> simp [Resource.ofItems?, same]
    · cases before <;> rfl
  | value =>
    refine ⟨fun room => ?_, rfl⟩
    cases room with
    | zero => rfl
    | succ room =>
      exact congrArg (Option.map Json.array) (mapM_replaced (agree.1 room) before after)

end Objects

theorem Rearranges.agree {part : PlanPart} {t t' : Tree} (rearranges : Rearranges part t t') :
    part.Agree t t' := by
  induction rearranges with
  | permuted apart perm => exact agree_permuted apart perm _
  | added before after record named unknown t => exact agree_added record named unknown t
  | emptyConfig before after named absent => exact agree_emptyConfig named absent
  | inMember before after _ ih => exact agree_inMember ih
  | inItem before after _ ih => exact agree_inItem ih

/-! What is refused -/

def PlanPart.Meaningless : PlanPart → Tree → Prop
  | plan, t => Plan.ofTree? t = none
  | resources, t => ∀ room, Tree.listOf? Resource.ofTree? room t = none
  | resource, t => ∀ room, Resource.ofTree? room t = none
  | value, _ => False

theorem mapM_eq_none {α : Type} {f : Tree → Option α} {t : Tree} {items : List Tree}
    (member : t ∈ items) (refused : f t = none) : items.mapM f = none := by
  obtain ⟨before, after, rfl⟩ := List.append_of_mem member
  simp [List.mapM_append, List.mapM_cons, refused]

section Faults

variable {members : List (List Piece × Tree)} {key : String} {part : PlanPart}

/-! An object means nothing whose members are refused. -/

theorem meaningless_plan
    (refused : foldMembers? (Plan.memberOf? (deepest - 1)) members none = none) :
    PlanPart.plan.Meaningless (.object members) := by
  show Plan.ofMembers? (deepest - 1) members = none
  rw [Plan.ofMembers?, refused]
  rfl

theorem meaningless_resource (refused : ∀ room, Resource.ofMembers? room members = none) :
    PlanPart.resource.Meaningless (.object members) := by
  intro room
  cases room with
  | zero => rfl
  | succ room => exact refused room

theorem meaningless_of_unnamed (required : key ∈ part.required) (absent : Unnamed key members) :
    part.Meaningless (.object members) := by
  cases part with
  | plan =>
    obtain rfl := List.mem_singleton.mp required
    show (foldMembers? (Plan.memberOf? (deepest - 1)) members none).bind _ = none
    cases folded : foldMembers? (Plan.memberOf? (deepest - 1)) members none with
    | none => rfl
    | some known =>
      have missing := (Plan.records (deepest - 1)).absent absent folded (by simp [Plan.Given])
      have none : known = none := by simpa [Plan.Given] using missing
      rw [none]
      rfl
  | resource =>
    refine meaningless_resource fun room => ?_
    unfold Resource.ofMembers?
    cases folded : foldMembers? (Resource.memberOf? room) members {} with
    | none => rfl
    | some fs =>
      have missing := (Resource.records room).absent absent folded
      simp only [PlanPart.required, List.mem_cons, List.not_mem_nil, or_false] at required
      rcases required with rfl | rfl
      · have none : fs.kind = none := by simpa [Resource.Given] using missing
        simp [Resource.ofFields?, none]
      · have none : fs.name = none := by simpa [Resource.Given] using missing
        simp [Resource.ofFields?, none]
  | resources => cases required
  | value => cases required

theorem meaningless_of_repeated {before between after : List (List Piece × Tree)}
    {m n : List Piece × Tree} (field : key ∈ part.fields) (first : string? m.1 = some key)
    (second : string? n.1 = some key) :
    part.Meaningless (.object (before ++ m :: (between ++ n :: after))) := by
  cases part with
  | plan => exact meaningless_plan ((Plan.records _).repeated field first second none)
  | resource =>
    refine meaningless_resource fun room => ?_
    rw [Resource.ofMembers?, (Resource.records room).repeated field first second]
    rfl
  | resources => cases field
  | value => cases field

theorem meaningless_of_noObject {name : List Piece} {t : Tree} (member : (name, t) ∈ members)
    (named : string? name = some "config") (other : ∀ members, t ≠ .object members) :
    PlanPart.resource.Meaningless (.object members) := by
  refine meaningless_resource fun room => ?_
  have refused : foldMembers? (Resource.memberOf? room) members {} = none := by
    refine foldMembers?_refused member (fun key fs named' => ?_) _
    obtain rfl := Option.some.inj (named.symm.trans named')
    show Option.map _ (field? fs.config (Attributes.ofTree? room t)) = none
    rw [Attributes.ofTree?_eq_none other, field?_none]
    rfl
  rw [Resource.ofMembers?, refused]
  rfl

theorem meaningless_of_inMember {name : List Piece} {t : Tree} (member : (name, t) ∈ members)
    (inside : (part.member name).Meaningless t) : part.Meaningless (.object members) := by
  cases part with
  | plan =>
    by_cases named : string? name = some "resources"
    · rw [PlanPart.member, if_pos named] at inside
      refine meaningless_plan (foldMembers?_refused member (fun key known named' => ?_) none)
      obtain rfl := Option.some.inj (named.symm.trans named')
      show field? known (Tree.listOf? Resource.ofTree? (deepest - 1) t) = none
      rw [inside, field?_none]
    · rw [PlanPart.member, if_neg named] at inside
      exact inside.elim
  | resources => exact inside.elim
  | resource => exact inside.elim
  | value => exact inside.elim

theorem meaningless_of_inItem {items : List Tree} {t : Tree} (member : t ∈ items)
    (inside : part.item.Meaningless t) : part.Meaningless (.array items) := by
  cases part with
  | plan =>
    show Plan.ofItems? (deepest - 1) items = none
    match items, member with
    | [_], .head _ => exact congrArg (Option.map Plan.mk) (inside _)
    | _ :: _ :: _, _ => rfl
  | resources =>
    intro room
    cases room with
    | zero => rfl
    | succ room => exact mapM_eq_none member (inside room)
  | resource => exact inside.elim
  | value => exact inside.elim

end Faults

theorem Faulty.meaningless {part : PlanPart} {t : Tree} (faulty : Faulty part t) :
    part.Meaningless t := by
  induction faulty with
  | missing required absent => exact meaningless_of_unnamed required absent
  | repeated field first second => exact meaningless_of_repeated field first second
  | noObject member named other => exact meaningless_of_noObject member named other
  | inMember member _ ih => exact meaningless_of_inMember member ih
  | inItem member _ ih => exact meaningless_of_inItem member ih

/-! Texts -/

theorem agree_of_rearranged {t t' : Tree} (rearranged : Relation.EqvGen (Rearranges .plan) t t') :
    Plan.ofTree? t = Plan.ofTree? t' := by
  induction rearranged with
  | rel t t' step => exact step.agree
  | refl t => rfl
  | symm t t' _ ih => exact ih.symm
  | trans t u v _ _ ih ih' => exact ih.trans ih'

/-- A text is read as what its tree means. A text that writes the same plan in another way is read
as the same plan, and a text with a fault in one place is refused as a whole. -/
theorem Plan.read_by_meaning {t t' : Tree} {text text' : String} (document : Document t text)
    (document' : Document t' text') :
    (∀ plan, Plan.read text = .ok plan ↔ Plan.ofTree? t = some plan) ∧
    (Relation.EqvGen (Rearranges .plan) t t' →
      ∀ plan, Plan.read text = .ok plan ↔ Plan.read text' = .ok plan) ∧
    (Faulty .plan t' → ∃ e, Plan.read text' = .error e) := by
  refine ⟨read_document document, ?_, ?_⟩
  · intro rearranged plan
    rw [read_document document, read_document document', agree_of_rearranged rearranged]
  · intro faulty
    have meaningless : ofTree? t' = none := faulty.meaningless
    cases done : Plan.read text' with
    | error e => exact ⟨e, rfl⟩
    | ok plan => cases meaningless.symm.trans ((read_document document' plan).mp done)

/-! A plan with one resource, written in two ways, and one without the name of the resource -/

def named (name : String) (t : Tree) : List Piece × Tree := (plainPieces name, t)

def planOf (members : List (List Piece × Tree)) : Tree :=
  .object [named "resources" (.array [.object members])]

def kindMember : List Piece × Tree := named "type" (.string (plainPieces "s3"))

def nameMember : List Piece × Tree := named "name" (.string (plainPieces "b"))

def configMember : List Piece × Tree := named "config" (.object [])

theorem resources_member : PlanPart.plan.member (plainPieces "resources") = .resources := rfl

theorem rearranges_planOf {members members' : List (List Piece × Tree)}
    (inside : Rearranges .resource (.object members) (.object members')) :
    Rearranges .plan (planOf members) (planOf members') := by
  have items : Rearranges .resources _ _ := .inItem [] [] inside
  exact .inMember [] [] (resources_member ▸ items)

theorem faulty_planOf {members : List (List Piece × Tree)}
    (inside : Faulty .resource (.object members)) : Faulty .plan (planOf members) := by
  have items : Faulty .resources (.array [.object members]) := .inItem (.head _) inside
  exact .inMember (.head _) (resources_member ▸ items)

theorem bucket_rearranged : Relation.EqvGen (Rearranges .plan) (planOf [kindMember, nameMember])
    (planOf [nameMember, configMember, kindMember]) := by
  have filled : Rearranges .resource (.object [kindMember, nameMember])
      (.object [kindMember, nameMember, configMember]) := .emptyConfig [_, _] [] rfl (by decide)
  have swapped : Rearranges .resource (.object [kindMember, nameMember, configMember])
      (.object [nameMember, configMember, kindMember]) :=
    .permuted (by decide) (.trans (.swap _ _ _) (.cons _ (.swap _ _ _)))
  exact .trans _ _ _ (.rel _ _ (rearranges_planOf filled)) (.rel _ _ (rearranges_planOf swapped))

def bucketText : String := "\x7b\"resources\":[\x7b\"type\":\"s3\",\"name\":\"b\"\x7d]\x7d"

def bucketText' : String :=
  "\x7b\"resources\":[\x7b\"name\":\"b\",\"config\":\x7b\x7d,\"type\":\"s3\"\x7d]\x7d"

def namelessText : String := "\x7b\"resources\":[\x7b\"type\":\"s3\"\x7d]\x7d"

theorem bucket_read_by_meaning : Plan.read bucketText = .ok ⟨[⟨"s3", "b", .empty⟩]⟩ ∧
    Plan.read bucketText' = .ok ⟨[⟨"s3", "b", .empty⟩]⟩ ∧
    ∃ e, Plan.read namelessText = .error e := by
  have bucket : Document (planOf [kindMember, nameMember]) bucketText := document_text (by decide)
  have bucket' : Document (planOf [nameMember, configMember, kindMember]) bucketText' :=
    document_text (by decide)
  have nameless : Document (planOf [kindMember]) namelessText := document_text (by decide)
  have faulty : Faulty .resource (.object [kindMember]) :=
    .missing (.tail _ (.head _)) (by decide)
  have alike := Plan.read_by_meaning bucket bucket'
  have made := (alike.1 ⟨[⟨"s3", "b", .empty⟩]⟩).mpr rfl
  have refused := (Plan.read_by_meaning bucket nameless).2.2 (faulty_planOf faulty)
  exact ⟨made, (alike.2.1 bucket_rearranged _).mp made, refused⟩

end InfraLint
