/-!
Members of an object: keys with values, in increasing order of the keys, each key once. Two lists
with the same members are therefore the same list, however they were built.
-/
namespace InfraLint

abbrev Members (α : Type) := List (String × α)

namespace Members

def insert (key : String) (value : α) : Members α → Members α
  | [] => [(key, value)]
  | (k, v) :: rest =>
    if key < k then (key, value) :: (k, v) :: rest
    else if key = k then (key, value) :: rest
    else (k, v) :: insert key value rest

/-- The last of several values for a key counts. -/
def ofList (members : List (String × α)) : Members α :=
  members.foldl (fun ms (k, v) => insert k v ms) []

def get? (key : String) (members : Members α) : Option α :=
  List.lookup key members

def contains (key : String) (members : Members α) : Bool :=
  (get? key members).isSome

end Members
end InfraLint
