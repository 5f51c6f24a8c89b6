import InfraLint.Yaml.Meaning

/-!
Values of YAML documents that are read without any expectation. Such a reading is stricter than
one that knows what it looks for: no mapping may hold a key twice, and integers have at most 64
bits.
-/
namespace InfraLint.Yaml

inductive Value where
  | null
  | bool (b : Bool)
  | int (n : Int)
  | float (x : Binary64)
  | text (s : String)
  | sequence (items : List Value)
  | mapping (members : List (Value × Value))
  | tagged (tag : String) (value : Value)

namespace Value

mutual

/-- Equality of keys: a NaN equals itself, and the order of members does not matter. -/
def same : Value → Value → Bool
  | null, null => true
  | bool a, bool b => a == b
  | int a, int b => a == b
  | float a, float b => a.same b || a.isNaN && b.isNaN
  | text a, text b => a == b
  | sequence a, sequence b => sameItems a b
  | mapping a, mapping b => a.length == b.length && sameMembers a b
  | tagged s a, tagged t b => s == t && same a b
  | _, _ => false

def sameItems : List Value → List Value → Bool
  | [], [] => true
  | a :: as, b :: bs => same a b && sameItems as bs
  | _, _ => false

def sameMembers : List (Value × Value) → List (Value × Value) → Bool
  | [], _ => true
  | (k, v) :: ms, others => hasMember k v others && sameMembers ms others

def hasMember (k v : Value) : List (Value × Value) → Bool
  | [] => false
  | (l, w) :: ms => same k l && same v w || hasMember k v ms

end

def ownTag? (tag : Option String) : Option String := do
  let tag ← tag
  match tag.toList with
  | '!' :: c :: cs => some (.ofList (c :: cs))
  | ['!'] => some ""
  | _ => none

abbrev Budget := StateT Nat Option

def Budget.spend : Budget Unit := fun left =>
  match left with
  | 0 => none
  | left + 1 => some ((), left)

def Budget.fail : Budget α := fun _ => none

def withTag (tag : Option String) (v : Value) : Value :=
  match ownTag? tag with
  | some tag => .tagged tag v
  | none => v

def ofMeaning? : Meaning → Option Value
  | .null => some .null
  | .bool b => some (.bool b)
  | .int n => if fitsSigned 64 n || fitsUnsigned 64 n then some (.int n) else none
  | .float x => some (.float x)
  | .text s => some (.text s)

/-- A scalar with a tag of an own kind is read as if it had none. -/
def ofScalar? (tag : Option String) (style : Style) (s : String) : Option Value :=
  let plainTag := if (ownTag? tag).isSome then none else tag
  match meaning plainTag style s with
  | .ok m => (ofMeaning? m).map (withTag tag)
  | .error _ => none

def members (item : Node → Budget Value) : List (Node × Node) → List (Value × Value) →
    Budget (List (Value × Value))
  | [], read => return read.reverse
  | (k, v) :: ms, read => do
    let k ← item k
    if read.any fun (l, _) => same k l then Budget.fail
    let v ← item v
    members item ms ((k, v) :: read)

def ofNode (anchors : Anchors) : Nat → Node → Budget Value
  | room, n => do
    match n with
    | .reference _ _ => Budget.spend
    | _ => pure ()
    match n.resolve anchors, room with
    | .scalar _ p style s, _ =>
      match ofScalar? p.tag style s with
      | some v => return v
      | none => Budget.fail
    | .sequence _ p items, room + 1 =>
      return withTag p.tag (.sequence (← items.mapM (ofNode anchors room)))
    | .mapping _ p ms, room + 1 =>
      return withTag p.tag (.mapping (← members (ofNode anchors room) ms []))
    | _, _ => Budget.fail

def deepest : Nat := 128

def ofDocument? (d : Document) : Option Value :=
  match d.root with
  | none => some .null
  | some root => ((ofNode d.anchors deepest root).run (100 * root.size)).map (·.1)

end Value
end InfraLint.Yaml
