import InfraLint.Proofs.Json.Members
import InfraLint.Proofs.Resource.Evaluations
import Mathlib.Data.Finset.Card

/-!
Attributes that are set one after the other, whatever they start from. What is set last for an
attribute is what it has, as it was given: the list that setting puts around a value is the one that
looking it up takes off. What was there at the start loses one list of one item at most.
-/
namespace InfraLint

/-- A list of one item gives its item, which stays as it is even where it is such a list again. -/
inductive Json.UnwrapsTo : Json → Json → Prop where
  | item (v : Json) : UnwrapsTo (.array [v]) v
  | bare {v : Json} (other : ∀ item, v ≠ .array [item]) : UnwrapsTo v v

namespace Attributes
open Members

/-- Sets attributes one after the other. -/
def setAll (calls : List (String × Json)) (start : Attributes) : Attributes :=
  calls.foldl (fun as (key, value) => as.set key value) start

/-- No attributes, the attributes that a text writes down, or those of an object. -/
inductive Start : Attributes → Prop where
  | empty : Start .empty
  | read {text : String} {as : Attributes} (valid : Attributes.read text = .ok as) : Start as
  | object {ms : Members Json} (increasing : Increasing ms) : Start ⟨ms⟩

def lastGiven? (key : String) (calls : List (String × Json)) : Option Json :=
  ((calls.filter (·.1 == key)).getLast?).map Prod.snd

variable {start : Attributes} {calls : List (String × Json)} {key : String} {value : Json}

theorem unwrapsTo_iff {v w : Json} : v.UnwrapsTo w ↔ v.unwrapped = w := by
  constructor
  · rintro (_ | other)
    · rfl
    · unfold Json.unwrapped
      split
      · exact absurd rfl (other _)
      · rfl
  · rintro rfl
    unfold Json.unwrapped
    split
    · exact .item _
    · rename_i other
      exact .bare other

/-! One attribute -/

theorem get?_set (key k : String) (value : Json) (as : Attributes) :
    (as.set k value).get? key = if key = k then some value else as.get? key := by
  unfold get? set
  rw [get?_insert]
  split <;> rfl

theorem contains_set (key k : String) (value : Json) (as : Attributes) :
    (as.set k value).contains key = (decide (key = k) || as.contains key) :=
  contains_insert key k _ as.members

theorem set_increasing {as : Attributes} (increasing : Increasing as.members) :
    Increasing (as.set key value).members := insert_increasing increasing

/-! Runs -/

theorem setAll_concat (k : String) :
    setAll (calls ++ [(k, value)]) start = (setAll calls start).set k value := by
  simp [setAll]

theorem lastGiven?_concat (key k : String) :
    lastGiven? key (calls ++ [(k, value)]) =
      if key = k then some value else lastGiven? key calls := by
  unfold lastGiven?
  by_cases same : key = k
  · simp [same]
  · simp [same, Ne.symm same]

theorem given_eq_nil : calls.filter (·.1 == key) = [] ↔ key ∉ calls.map Prod.fst := by
  rw [List.filter_eq_nil_iff, List.mem_map]
  constructor
  · rintro none ⟨call, member, named⟩
    exact none call member (beq_iff_eq.mpr named)
  · intro absent call member named
    exact absent ⟨call, member, beq_iff_eq.mp named⟩

theorem lastGiven?_eq_none : lastGiven? key calls = none ↔ key ∉ calls.map Prod.fst := by
  rw [lastGiven?, Option.map_eq_none_iff, List.getLast?_eq_none_iff, given_eq_nil]

theorem lastGiven?_split {before after : List (String × Json)}
    (last : key ∉ after.map Prod.fst) :
    lastGiven? key (before ++ (key, value) :: after) = some value := by
  simp [lastGiven?, given_eq_nil.mpr last]

theorem get?_setAll (key : String) (calls : List (String × Json)) (start : Attributes) :
    (setAll calls start).members.get? key =
      ((lastGiven? key calls).map fun v => .array [v]).or (start.members.get? key) := by
  induction calls using List.reverseRecOn with
  | nil => rfl
  | append_singleton calls call ih =>
    obtain ⟨k, v⟩ := call
    rw [setAll_concat, lastGiven?_concat, set, get?_insert, ih]
    split <;> rfl

theorem setAll_increasing (increasing : Increasing start.members)
    (calls : List (String × Json)) : Increasing (setAll calls start).members := by
  induction calls using List.reverseRecOn with
  | nil => exact increasing
  | append_singleton calls call ih =>
    rw [setAll_concat]
    exact set_increasing ih

theorem get?_setAll_of_mem {before after : List (String × Json)}
    (last : key ∉ after.map Prod.fst) :
    (setAll (before ++ (key, value) :: after) start).get? key = some value := by
  rw [get?, get?_setAll, lastGiven?_split last]
  rfl

theorem get?_setAll_of_not_mem (absent : key ∉ calls.map Prod.fst) {seen : Json} :
    (setAll calls start).get? key = some seen ↔
      ∃ held, start.members.get? key = some held ∧ held.UnwrapsTo seen := by
  simp only [get?, get?_setAll, lastGiven?_eq_none.mpr absent, Option.map_none, Option.none_or,
    Option.map_eq_some_iff, unwrapsTo_iff]

theorem contains_setAll : (setAll calls start).contains key = true ↔
    key ∈ start.members.map Prod.fst ∨ key ∈ calls.map Prod.fst := by
  rw [← contains_iff_mem, contains, Members.contains, get?_setAll, Option.isSome_or,
    Option.isSome_map, Bool.or_eq_true, or_comm, Members.contains,
    ← Option.ne_none_iff_isSome (o := lastGiven? key calls), Ne, lastGiven?_eq_none, not_not]

theorem size_setAll (increasing : Increasing start.members) :
    (setAll calls start).size =
      (start.members.map Prod.fst ++ calls.map Prod.fst).toFinset.card := by
  have distinct := nodup_keys (setAll_increasing increasing calls)
  have keys : ((setAll calls start).members.map Prod.fst).toFinset =
      (start.members.map Prod.fst ++ calls.map Prod.fst).toFinset := by
    ext key
    rw [List.mem_toFinset, List.mem_toFinset, List.mem_append, ← contains_iff_mem]
    exact contains_setAll
  rw [← keys, List.toFinset_card_of_nodup distinct, List.length_map]
  rfl

theorem getString?_eq_some {as : Attributes} {s : String} :
    as.getString? key = some s ↔ as.get? key = some (.string s) := by
  unfold getString?
  split
  · rename_i found
    simp [found]
  · rename_i other
    simp only [reduceCtorEq, false_iff]
    exact other s

theorem setAll_reordered {calls' : List (String × Json)} (increasing : Increasing start.members)
    (inOrder : ∀ key, calls'.filter (·.1 == key) = calls.filter (·.1 == key)) :
    setAll calls' start = setAll calls start := by
  have members : (setAll calls' start).members = (setAll calls start).members := by
    apply eq_of_get?_eq (setAll_increasing increasing calls') (setAll_increasing increasing calls)
    intro key
    rw [get?_setAll, get?_setAll, lastGiven?, inOrder key, lastGiven?]
  exact congrArg Attributes.mk members

/-! What attributes start from -/

open Json.Reader in
theorem reader_increasing {fuel room : Nat} :
    Yields (fun as : Attributes => Increasing as.members) (reader fuel room) := by
  have map : Yields Increasing (mapOf fuel room (value fuel)) := by
    intro c ms c' taken
    obtain ⟨left, _, _, members⟩ := mapOf_eq_ok.mp taken
    refine yields_enclosed (yields_members ?_ List.Pairwise.nil) _ _ _ members
    intro key ms increasing
    exact yields_bind fun _ => yields_bind fun _ => yields_pure (insert_increasing increasing)
  refine yields_bind_of map ?_
  intro ms increasing
  exact yields_pure (P := fun as : Attributes => Increasing as.members) increasing

theorem Start.increasing (given : Start start) : Increasing start.members := by
  cases given with
  | empty => exact List.Pairwise.nil
  | read valid =>
    obtain ⟨middle, _, taken, _⟩ := Json.Reader.run_eq_ok.mp valid
    exact reader_increasing _ _ _ taken
  | object increasing => exact increasing

/-- A run of settings is a map in which what is set last counts. What was there at the start counts
where nothing is set. Calls may change places as long as those for one attribute keep their
order. -/
theorem set_attributes_looked_up (start : Attributes) (given : Start start)
    (calls : List (String × Json)) :
    (∀ key value before after, calls = before ++ (key, value) :: after →
      key ∉ after.map Prod.fst → (setAll calls start).get? key = some value) ∧
    (∀ key, key ∉ calls.map Prod.fst → ∀ seen, (setAll calls start).get? key = some seen ↔
      ∃ held, start.members.get? key = some held ∧ held.UnwrapsTo seen) ∧
    (∀ key, (setAll calls start).contains key = true ↔
      key ∈ start.members.map Prod.fst ∨ key ∈ calls.map Prod.fst) ∧
    (setAll calls start).size =
      (start.members.map Prod.fst ++ calls.map Prod.fst).toFinset.card ∧
    (∀ key s, (setAll calls start).getString? key = some s ↔
      (setAll calls start).get? key = some (.string s)) ∧
    ∀ calls', (∀ key, calls'.filter (·.1 == key) = calls.filter (·.1 == key)) →
      setAll calls' start = setAll calls start ∧
        ∀ (check : Check) (policy : Policy) (kind : String),
          check.passes policy kind (setAll calls' start) =
            check.passes policy kind (setAll calls start) := by
  have increasing := given.increasing
  refine ⟨?_, fun _ absent _ => get?_setAll_of_not_mem absent, fun _ => contains_setAll,
    size_setAll increasing, fun _ _ => getString?_eq_some, ?_⟩
  · rintro key value before after rfl last
    exact get?_setAll_of_mem last
  · intro calls' inOrder
    have same := setAll_reordered increasing inOrder
    exact ⟨same, fun _ _ _ => by rw [same]⟩

/-- A list of one item that is set comes back as it is. One that was there loses one layer. -/
theorem wrapped_attributes_looked_up :
    Start ⟨[("name", .null), ("tags", .array [.array [.null]])]⟩ ∧
    (setAll [("name", .string "kv"), ("name", .array [.null])]
      ⟨[("name", .null), ("tags", .array [.array [.null]])]⟩).get? "name" =
        some (.array [.null]) ∧
    (setAll [("name", .string "kv"), ("name", .array [.null])]
      ⟨[("name", .null), ("tags", .array [.array [.null]])]⟩).get? "tags" =
        some (.array [.null]) := by
  have given : Start ⟨[("name", .null), ("tags", .array [.array [.null]])]⟩ := .object (by decide)
  obtain ⟨last, untouched, _⟩ := set_attributes_looked_up _ given
    [("name", .string "kv"), ("name", .array [.null])]
  refine ⟨given, last _ _ [("name", .string "kv")] [] rfl (by decide), ?_⟩
  exact (untouched "tags" (by decide) _).mpr ⟨_, rfl, .item _⟩

end Attributes
end InfraLint
