import InfraLint.Proofs.Json.MemberFolds
import InfraLint.Proofs.Json.Members
import InfraLint.Proofs.Resource.PlanTrees

/-!
The members of resources and plans. Each field has a slot of its own, so members may come in any
order; a field is given once at most, and only an object is taken for the attributes.
-/
namespace InfraLint
open Json

theorem inserted?_commutes {α : Type} (inner : Tree → Option α) : Commutes (inserted? inner) := by
  intro key key' t t' ms other
  unfold inserted?
  cases inner t with
  | none => cases inner t' <;> simp
  | some v =>
    cases inner t' with
    | none => simp
    | some w => simp [Members.insert_comm other]

theorem noObject_of_outcome? {negative : Bool} {text : List Char} {ms : Members Json} :
    Reader.outcome? (Reader.number negative) text ≠ some (.object ms) := by
  unfold Reader.outcome?
  split
  · rename_i v last taken
    intro same
    exact Reader.yields_noObject_number negative _ v last taken ms (Option.some.inj same)
  · nofun

/-- Only an object has attributes. -/
theorem Attributes.ofTree?_eq_none {t : Tree} (other : ∀ members, t ≠ .object members)
    (room : Nat) : Attributes.ofTree? room t = none := by
  have noObject (ms : Members Json) : Tree.value? room t ≠ some (.object ms) := by
    cases t with
    | null => cases room <;> nofun
    | bool b => cases room <;> nofun
    | number negative text isNumber => cases room <;> exact noObject_of_outcome?
    | string pieces => cases room <;> simp [Tree.value?, Tree.valueWith?]
    | array items => cases room <;> simp [Tree.value?, Tree.valueWith?]
    | object members => exact absurd rfl (other members)
  unfold ofTree?
  cases made : Tree.value? room t with
  | none => rfl
  | some v =>
    cases v with
    | object ms => exact absurd made (noObject ms)
    | _ => rfl

namespace Resource

variable {room : Nat} {key : String} {t : Tree} {fs fs' : Fields}

def kindSlot : Slot Fields String := ⟨Fields.kind, fun kind fs => { fs with kind }, fun _ _ => rfl⟩

def nameSlot : Slot Fields String := ⟨Fields.name, fun name fs => { fs with name }, fun _ _ => rfl⟩

def configSlot : Slot Fields Attributes :=
  ⟨Fields.config, fun config fs => { fs with config }, fun _ _ => rfl⟩

theorem kind_apart_name : kindSlot.Apart nameSlot :=
  ⟨fun _ _ => rfl, fun _ _ => rfl, fun _ _ _ => rfl⟩

theorem kind_apart_config : kindSlot.Apart configSlot :=
  ⟨fun _ _ => rfl, fun _ _ => rfl, fun _ _ _ => rfl⟩

theorem name_apart_config : nameSlot.Apart configSlot :=
  ⟨fun _ _ => rfl, fun _ _ => rfl, fun _ _ _ => rfl⟩

theorem mem_fieldNames : key ∈ fieldNames ↔ key = "type" ∨ key = "name" ∨ key = "config" := by
  simp [fieldNames]

/-- The field has been read. -/
def Given (key : String) (fs : Fields) : Prop :=
  key = "type" ∧ fs.kind.isSome ∨ key = "name" ∧ fs.name.isSome ∨
    key = "config" ∧ fs.config.isSome

/-- What a member does to the fields. -/
theorem memberOf?_eq_some (taken : memberOf? room key t fs = some fs') :
    (key = "type" ∧ fs.kind = none ∧ ∃ kind, fs' = { fs with kind := some kind }) ∨
    (key = "name" ∧ fs.name = none ∧ ∃ name, fs' = { fs with name := some name }) ∨
    (key = "config" ∧ fs.config = none ∧ ∃ config, fs' = { fs with config := some config }) ∨
    (key ∉ fieldNames ∧ fs' = fs) := by
  by_cases field : key ∈ fieldNames
  · rcases mem_fieldNames.mp field with rfl | rfl | rfl
    · obtain ⟨absent, isMade, rfl⟩ := kindSlot.take?_eq_some taken
      obtain ⟨kind, made⟩ := Option.isSome_iff_exists.mp isMade
      exact .inl ⟨rfl, absent, kind, by rw [made]; rfl⟩
    · obtain ⟨absent, isMade, rfl⟩ := nameSlot.take?_eq_some taken
      obtain ⟨name, made⟩ := Option.isSome_iff_exists.mp isMade
      exact .inr (.inl ⟨rfl, absent, name, by rw [made]; rfl⟩)
    · obtain ⟨absent, isMade, rfl⟩ := configSlot.take?_eq_some taken
      obtain ⟨config, made⟩ := Option.isSome_iff_exists.mp isMade
      exact .inr (.inr (.inl ⟨rfl, absent, config, by rw [made]; rfl⟩))
  · cases (congrFun (memberOf?_of_not_mem room field t) fs).symm.trans taken
    exact .inr (.inr (.inr ⟨field, rfl⟩))

theorem records (room : Nat) : Records fieldNames Given (memberOf? room) where
  takes := by
    intro key t fs fs' field taken
    obtain ⟨rfl, absent, _, rfl⟩ | ⟨rfl, absent, _, rfl⟩ | ⟨rfl, absent, _, rfl⟩ | ⟨unknown, _⟩ :=
      memberOf?_eq_some taken
    · simp [Given, absent]
    · simp [Given, absent]
    · simp [Given, absent]
    · exact absurd field unknown
  keeps := by
    intro key other t fs fs' another taken
    obtain ⟨rfl, _, _, rfl⟩ | ⟨rfl, _, _, rfl⟩ | ⟨rfl, _, _, rfl⟩ | ⟨_, rfl⟩ :=
      memberOf?_eq_some taken
    · simp [Given, another]
    · simp [Given, another]
    · simp [Given, another]
    · rfl
  passes := memberOf?_of_not_mem room

theorem commutes (room : Nat) : Commutes (memberOf? room) := by
  refine (records room).commutes fun key field key' field' other t t' fs => ?_
  rcases mem_fieldNames.mp field with rfl | rfl | rfl
  · rcases mem_fieldNames.mp field' with rfl | rfl | rfl
    · exact absurd rfl other
    · exact kind_apart_name.take?_comm _ _ fs
    · exact kind_apart_config.take?_comm _ _ fs
  · rcases mem_fieldNames.mp field' with rfl | rfl | rfl
    · exact (kind_apart_name.take?_comm _ _ fs).symm
    · exact absurd rfl other
    · exact name_apart_config.take?_comm _ _ fs
  · rcases mem_fieldNames.mp field' with rfl | rfl | rfl
    · exact (kind_apart_config.take?_comm _ _ fs).symm
    · exact (name_apart_config.take?_comm _ _ fs).symm
    · exact absurd rfl other

end Resource

namespace Plan

variable {room : Nat} {key : String} {t : Tree}

def Given (key : String) (known : Option (List Resource)) : Prop :=
  key = "resources" ∧ known.isSome

theorem records (room : Nat) : Records fieldNames Given (memberOf? room) where
  takes := by
    intro key t known known' field taken
    obtain rfl := List.mem_singleton.mp field
    obtain ⟨absent, isMade, rfl⟩ := field?_eq_some.mp taken
    exact ⟨by simp [Given, absent], rfl, isMade⟩
  keeps := by
    intro key other t known known' another taken
    by_cases field : key ∈ fieldNames
    · obtain rfl := List.mem_singleton.mp field
      simp [Given, another]
    · cases (congrFun (memberOf?_of_not_mem room field t) known).symm.trans taken
      rfl
  passes := memberOf?_of_not_mem room

theorem commutes (room : Nat) : Commutes (memberOf? room) := by
  refine (records room).commutes fun key field key' field' other t t' fs => ?_
  exact absurd ((List.mem_singleton.mp field).trans (List.mem_singleton.mp field').symm) other

end Plan

end InfraLint
