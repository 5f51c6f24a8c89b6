import InfraLint.Json.Value
import InfraLint.Proofs.Json.Members

/-!
Values whose members stand in the order of their keys. Reading brings a value into this form, and
nothing that is asked for under a key is lost by it.
-/
namespace InfraLint.Json

mutual

/-- A value with the members of all its objects in the order of their keys. -/
def ordered : Json → Json
  | .array items => .array (orderedItems items)
  | .object members => .object (Members.ofList (orderedMembers members))
  | .null => .null
  | .bool b => .bool b
  | .int n => .int n
  | .float x => .float x
  | .string s => .string s

def orderedItems : List Json → List Json
  | [] => []
  | j :: items => j.ordered :: orderedItems items

def orderedMembers : List (String × Json) → List (String × Json)
  | [] => []
  | (key, j) :: members => (key, j.ordered) :: orderedMembers members

end

theorem orderedItems_eq_map (items : List Json) : orderedItems items = items.map ordered := by
  induction items with
  | nil => rfl
  | cons j items ih => rw [orderedItems, ih, List.map_cons]

theorem orderedMembers_eq_map (members : List (String × Json)) :
    orderedMembers members = members.map fun m => (m.1, m.2.ordered) := by
  induction members with
  | nil => rfl
  | cons m members ih => rw [orderedMembers, ih, List.map_cons]

/-! Data under keys -/

def memberAt? (key : String) : Json → Option Json
  | .object members => Members.get? key members
  | _ => none

def textAt? (key : String) (j : Json) : Option String :=
  match j.memberAt? key with
  | some (.string s) => some s
  | _ => none

def listOf? {α : Type} (item : Json → Option α) : Json → Option (List α)
  | .array items => items.mapM item
  | _ => none

variable {members : List (String × Json)}

theorem memberAt?_ordered (key : String) (j : Json) (distinct : (members.map Prod.fst).Nodup)
    (member : (key, j) ∈ members) : (ordered (.object members)).memberAt? key = some j.ordered := by
  rw [ordered, memberAt?, orderedMembers_eq_map]
  apply Members.get?_ofList_of_mem
  · simpa [Function.comp_def] using distinct
  · exact List.mem_map.mpr ⟨(key, j), member, rfl⟩

theorem textAt?_ordered (key s : String) (distinct : (members.map Prod.fst).Nodup)
    (member : (key, .string s) ∈ members) : (ordered (.object members)).textAt? key = some s := by
  rw [textAt?, memberAt?_ordered key _ distinct member, ordered]

theorem listOf?_ordered {α : Type} {item : Json → Option α} {encode : α → Json}
    (each : ∀ a, item (encode a).ordered = some a) (as : List α) :
    listOf? item (ordered (.array (as.map encode))) = some as := by
  rw [ordered, orderedItems_eq_map, List.map_map, listOf?]
  induction as with
  | nil => rfl
  | cons a as ih => simp [List.mapM_cons, each a, ih]

end InfraLint.Json
