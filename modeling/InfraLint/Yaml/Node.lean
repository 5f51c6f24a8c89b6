import InfraLint.Yaml.Token

/-!
Nodes: the tree that the tokens of a YAML text make up. Anchors are numbered by the names that
were in use before them, and an alias refers to a number; where several anchors have one number,
the last of them counts.
-/
namespace InfraLint.Yaml

structure Properties where
  anchor : Option Nat := none
  tag : Option String := none
  deriving DecidableEq, Repr

inductive Node where
  | scalar (mark : Mark) (properties : Properties) (style : Style) (text : String)
  | sequence (mark : Mark) (properties : Properties) (items : List Node)
  | mapping (mark : Mark) (properties : Properties) (members : List (Node × Node))
  | reference (mark : Mark) (anchor : Nat)

structure Document where
  root : Option Node

namespace Node

def mark : Node → Mark
  | scalar mark _ _ _ => mark
  | sequence mark _ _ => mark
  | mapping mark _ _ => mark
  | reference mark _ => mark

def empty (mark : Mark) (properties : Properties) : Node := scalar mark properties .plain ""

end Node

structure Parse where
  tokens : List Token
  anchors : List (String × Nat) := []
  handles : List (String × String) := []

abbrev NodeReader := StateT Parse Option

namespace Parse

def peek : NodeReader (Option Token) := fun s => some (s.tokens.head?, s)

def skip : NodeReader Unit := fun s => some ((), { s with tokens := s.tokens.drop 1 })

def fail : NodeReader α := fun _ => none

def isNext (kind : TokenKind) : NodeReader Bool := do
  return (← peek).any (·.kind = kind)

def isNextOf (kinds : List TokenKind) : NodeReader Bool := do
  return (← peek).all (kinds.contains ·.kind)

def markAhead (ending : Mark) : NodeReader Mark := do
  return ((← peek).map (·.start)).getD ending

/-- Registers an anchor; its number is that of the names in use before it. -/
def register (name : String) : NodeReader Nat := fun s =>
  let number := s.anchors.length
  let others := s.anchors.filter (·.1 != name)
  some (number, { s with anchors := (name, number) :: others })

def anchorOf (name : String) : NodeReader Nat := fun s =>
  (s.anchors.lookup name).map (·, s)

def fullTag (handle rest : String) : NodeReader String := fun s =>
  if handle.isEmpty then some (rest, s)
  else (s.handles.lookup handle).map fun meaning => (meaning ++ rest, s)

def properties : NodeReader (Option Mark × Properties) := do
  let anchor : NodeReader (Option (Mark × String)) := do
    match ← peek with
    | some ⟨.anchor name, start, _⟩ => do
      skip
      return some (start, name)
    | _ => return none
  let tag : NodeReader (Option (Mark × String × String)) := do
    match ← peek with
    | some ⟨.tag handle rest, start, _⟩ => do
      skip
      return some (start, handle, rest)
    | _ => return none
  let first ← anchor
  let second ← tag
  let third ← if first.isNone && second.isSome then anchor else pure none
  let name := first.or third
  let place := (first.map (·.1)).or (second.map (·.1))
  let tag ← match second with
    | some (_, handle, rest) => some <$> fullTag handle rest
    | none => pure none
  let number ← match name with
    | some (_, name) => some <$> register name
    | none => pure none
  return (place, ⟨number, tag⟩)

/-! Collections. `item` reads a node; where none stands, an empty one takes its place. -/

def blockEntries (item : NodeReader Node) : Nat → NodeReader (List Node)
  | 0 => fail
  | fuel + 1 => do
    match ← peek with
    | some ⟨.blockEntry, _, stop⟩ => do
      skip
      let first ← if ← isNextOf [.blockEntry, .blockEnd] then pure (Node.empty stop {}) else item
      return first :: (← blockEntries item fuel)
    | some ⟨.blockEnd, _, _⟩ => do
      skip
      return []
    | _ => fail

def looseEntries (item : NodeReader Node) : Nat → NodeReader (List Node)
  | 0 => fail
  | fuel + 1 => do
    match ← peek with
    | some ⟨.blockEntry, _, stop⟩ => do
      skip
      let first ← if ← isNextOf [.blockEntry, .key, .value, .blockEnd]
        then pure (Node.empty stop {}) else item
      return first :: (← looseEntries item fuel)
    | _ => return []

def behind (stop : Mark) (ends : List TokenKind) (item : NodeReader Node) : NodeReader Node := do
  if ← isNextOf ends then return .empty stop {} else item

def blockMembers (item : NodeReader Node) : Nat → NodeReader (List (Node × Node))
  | 0 => fail
  | fuel + 1 => do
    let ends : List TokenKind := [.key, .value, .blockEnd]
    match ← peek with
    | some ⟨.key, _, stop⟩ => do
      skip
      let key ← behind stop ends item
      let value ← match ← peek with
        | some ⟨.value, _, stop⟩ => do
          skip
          behind stop ends item
        | _ => pure (Node.empty (← markAhead stop) {})
      return (key, value) :: (← blockMembers item fuel)
    | some ⟨.blockEnd, _, _⟩ => do
      skip
      return []
    | _ => fail

def flowValue (ends : List TokenKind) (item : NodeReader Node) : NodeReader Node := do
  match ← peek with
  | some ⟨.value, _, stop⟩ => do
    skip
    if ← isNextOf ends then return .empty (← markAhead stop) {} else item
  | some token => return .empty token.start {}
  | none => fail

/-- Whether an item follows in a flow collection; a comma must stand in front of it unless it is
the first. The token that ends the collection is taken. -/
def flowNext (ending : TokenKind) (first : Bool) : NodeReader Bool := do
  if ← isNext ending then
    skip
    return false
  if !first then
    if ← isNext .flowEntry then skip else fail
    if ← isNext ending then
      skip
      return false
  return true

def flowItems (item : NodeReader Node) : Nat → Bool → NodeReader (List Node)
  | 0, _ => fail
  | fuel + 1, first => do
    if ← flowNext .flowSequenceEnd first then
      match ← peek with
      | some ⟨.key, start, _⟩ => do
        skip
        let ends : List TokenKind := [.flowEntry, .flowSequenceEnd]
        let key ← match ← peek with
          | some token =>
            if (TokenKind.value :: ends).contains token.kind then do
              skip
              pure (Node.empty token.stop {})
            else item
          | none => fail
        let value ← flowValue ends item
        return .mapping start {} [(key, value)] :: (← flowItems item fuel false)
      | _ => do
        let a ← item
        return a :: (← flowItems item fuel false)
    else return []

def flowMembers (item : NodeReader Node) : Nat → Bool → NodeReader (List (Node × Node))
  | 0, _ => fail
  | fuel + 1, first => do
    if ← flowNext .flowMappingEnd first then
      let ends : List TokenKind := [.flowEntry, .flowMappingEnd]
      match ← peek with
      | some ⟨.key, _, stop⟩ => do
        skip
        let key ← if ← isNextOf (.value :: ends)
          then pure (Node.empty (← markAhead stop) {}) else item
        let value ← flowValue ends item
        return (key, value) :: (← flowMembers item fuel false)
      | _ => do
        let key ← item
        let value ← match ← peek with
          | some token => pure (Node.empty token.start {})
          | none => fail
        return (key, value) :: (← flowMembers item fuel false)
    else return []

/-- A node. In a block, `loose` allows entries that are not indented. `fuel` bounds the nesting
and the length of collections. -/
def node : Nat → Bool → Bool → NodeReader Node
  | 0, _, _ => fail
  | fuel + 1, block, loose => do
    match ← peek with
    | some ⟨.reference name, start, _⟩ => do
      skip
      return .reference start (← anchorOf name)
    | _ =>
      let (place, properties) ← properties
      match ← peek with
      | none => fail
      | some token =>
        let mark := place.getD token.start
        match token.kind with
        | .scalar text style => do
          skip
          return .scalar mark properties style text
        | .flowSequence => do
          skip
          return .sequence mark properties (← flowItems (node fuel false false) fuel true)
        | .flowMapping => do
          skip
          return .mapping mark properties (← flowMembers (node fuel false false) fuel true)
        | _ =>
          if loose && token.kind = .blockEntry then
            return .sequence mark properties (← looseEntries (node fuel true false) fuel)
          else if block && token.kind = .blockSequence then
            skip
            return .sequence mark properties (← blockEntries (node fuel true false) fuel)
          else if block && token.kind = .blockMapping then
            skip
            return .mapping mark properties (← blockMembers (node fuel true true) fuel)
          else
            match place with
            | some mark => return .empty mark properties
            | none => fail

/-! Documents -/

def directives : Nat → Bool → List (String × String) → NodeReader (Bool × List (String × String))
  | 0, versioned, handles => return (versioned, handles)
  | fuel + 1, versioned, handles => do
    match ← peek with
    | some ⟨.version major minor, _, _⟩ =>
      if versioned || major != 1 || minor != 1 && minor != 2 then fail
      else
        skip
        directives fuel true handles
    | some ⟨.tagHandle handle meaning, _, _⟩ =>
      if (handles.lookup handle).isSome then fail
      else
        skip
        directives fuel versioned ((handle, meaning) :: handles)
    | _ => return (versioned, handles)

def standardHandles : List (String × String) :=
  [("!", "!"), ("!!", "tag:yaml.org,2002:")]

def content (fuel : Nat) (stop : Mark) : NodeReader Node := do
  match ← peek with
  | none => return .empty stop {}
  | some token =>
    match token.kind with
    | .version _ _ | .tagHandle _ _ | .documentStart | .documentEnd =>
      return .empty token.start {}
    | _ => node fuel true false

def document (fuel : Nat) : NodeReader Document := do
  match ← peek with
  | none => return ⟨none⟩
  | some _ =>
    let (versioned, handles) ← directives fuel false []
    modify fun s => { s with handles := handles ++ standardHandles }
    let root ← match ← peek with
      | some ⟨.documentStart, _, stop⟩ => do
        skip
        content fuel stop
      | _ => if versioned || !handles.isEmpty then fail else node fuel true false
    modify fun s => { s with tokens := s.tokens.dropWhile (·.kind = .documentEnd) }
    match ← peek with
    | none => return ⟨some root⟩
    | some _ => fail

end Parse

def Document.read? (text : String) : Option Document := do
  let tokens ← tokens? text
  let (document, _) ← (Parse.document (tokens.length + 1)) { tokens }
  return document

namespace Node

mutual

def anchored : Node → List (Nat × Node)
  | scalar mark p style text =>
    (p.anchor.map (·, scalar mark p style text)).toList
  | sequence mark p items =>
    (p.anchor.map (·, sequence mark p items)).toList ++ anchoredItems items
  | mapping mark p members =>
    (p.anchor.map (·, mapping mark p members)).toList ++ anchoredMembers members
  | reference _ _ => []

def anchoredItems : List Node → List (Nat × Node)
  | [] => []
  | n :: ns => anchored n ++ anchoredItems ns

def anchoredMembers : List (Node × Node) → List (Nat × Node)
  | [] => []
  | (k, v) :: ms => anchored k ++ anchored v ++ anchoredMembers ms

end

mutual

/-- Nodes and ends of collections, of which the effort that aliases may cause is a multiple. -/
def size : Node → Nat
  | scalar _ _ _ _ => 1
  | reference _ _ => 1
  | sequence _ _ items => 2 + sizeItems items
  | mapping _ _ members => 2 + sizeMembers members

def sizeItems : List Node → Nat
  | [] => 0
  | n :: ns => size n + sizeItems ns

def sizeMembers : List (Node × Node) → Nat
  | [] => 0
  | (k, v) :: ms => size k + size v + sizeMembers ms

end

end Node

abbrev Anchors := List (Nat × Node)

def Document.anchors (d : Document) : Anchors :=
  (d.root.elim [] Node.anchored).reverse

def Node.resolve (anchors : Anchors) : Node → Node
  | .reference mark anchor => (anchors.lookup anchor).getD (.empty mark {})
  | n => n

end InfraLint.Yaml
