import InfraLint.Json.Typed

/-!
Attributes of a resource. Hosts wrap a single value in a list of one item; such a list and its
item mean the same.
-/
namespace InfraLint

/-- The only item of a list of one, any other value as it is. -/
def Json.unwrapped : Json → Json
  | .array [item] => item
  | value => value

structure Attributes where
  members : Members Json

namespace Attributes

def empty : Attributes := ⟨[]⟩

def set (key : String) (value : Json) (as : Attributes) : Attributes :=
  ⟨as.members.insert key (.array [value])⟩

def get? (key : String) (as : Attributes) : Option Json :=
  (as.members.get? key).map Json.unwrapped

def getString? (key : String) (as : Attributes) : Option String :=
  match as.get? key with
  | some (.string s) => some s
  | _ => none

def contains (key : String) (as : Attributes) : Bool := as.members.contains key

def size (as : Attributes) : Nat := as.members.length

def same (as bs : Attributes) : Bool := Json.sameMembers as.members bs.members

def reader (fuel room : Nat) : Json.Reader Attributes := do
  return ⟨← Json.Reader.mapOf fuel room (Json.Reader.value fuel)⟩

def read (text : String) : Except Json.Error Attributes :=
  Json.Reader.run (fun fuel => reader fuel Json.deepest) text

/-- The attributes that a value holds. A value has no places to report. -/
def ofJson : Json → Except Json.Error Attributes
  | .object members => .ok ⟨members⟩
  | value => .error ⟨.mismatch value.describe "a map", none⟩

def toJson (as : Attributes) : Json := .object as.members

end Attributes
end InfraLint
