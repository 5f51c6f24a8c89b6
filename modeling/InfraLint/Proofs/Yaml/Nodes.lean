import InfraLint.Proofs.Yaml.Written

/-!
Nodes of a written document. The tokens of a layout make up a node that shows it.
-/
namespace InfraLint.Yaml
open Layout (kinds memberKinds)

/-! What a node shows -/

inductive ShowsItems : List Node → List String → Prop where
  | nil : ShowsItems [] []
  | cons (mark : Mark) (item : String) {nodes : List Node} {items : List String}
      (shown : ShowsItems nodes items) :
      ShowsItems (.scalar mark {} (styleOf item) item :: nodes) (item :: items)

mutual

/-- A node without properties that is what the layout looks like, wherever it stands. -/
inductive Shows : Node → Layout → Prop where
  | word (mark : Mark) (s : String) : Shows (.scalar mark {} .plain s) (.word s)
  | text (mark : Mark) (s : String) : Shows (.scalar mark {} (styleOf s) s) (.text s)
  | list (mark : Mark) {nodes : List Node} {items : List String} (shown : ShowsItems nodes items) :
      Shows (.sequence mark {} nodes) (.list items)
  | record (mark : Mark) {nodes : List (Node × Node)} {members : List (String × Layout)}
      (shown : ShowsMembers nodes members) : Shows (.mapping mark {} nodes) (.record members)

inductive ShowsMembers : List (Node × Node) → List (String × Layout) → Prop where
  | nil : ShowsMembers [] []
  | cons (mark : Mark) (key : String) {node : Node} {value : Layout} {nodes : List (Node × Node)}
      {members : List (String × Layout)} (first : Shows node value)
      (shown : ShowsMembers nodes members) :
      ShowsMembers ((.scalar mark {} .plain key, node) :: nodes) ((key, value) :: members)

end

/-! Tokens by their kinds -/

section Tokens

variable {tokens : List Token} {kind : TokenKind} {others : List TokenKind}

theorem exists_token (same : tokens.map Token.kind = kind :: others) :
    ∃ start stop rest, tokens = ⟨kind, start, stop⟩ :: rest ∧ rest.map Token.kind = others := by
  cases tokens with
  | nil => simp at same
  | cons token rest =>
    obtain ⟨rfl, behind⟩ := List.cons.inj same
    exact ⟨token.start, token.stop, rest, rfl, behind⟩

theorem kinds_start (value : Layout) : ∃ kind others, kinds value = kind :: others ∧
    kind ∉ [TokenKind.key, .value, .blockEnd] := by
  cases value with
  | word s => exact ⟨_, _, rfl, by simp⟩
  | text s => exact ⟨_, _, rfl, by simp⟩
  | list items =>
    cases items with
    | nil => exact ⟨_, _, rfl, by simp⟩
    | cons item items => exact ⟨_, _, rfl, by simp⟩
  | record members => exact ⟨_, _, rfl, by simp⟩

end Tokens

namespace Parse

variable {anchors : List (String × Nat)} {handles : List (String × String)} {rest : List Token}
  {fuel depth : Nat} {block loose : Bool} {start stop start' stop' : Mark} {s' : Parse}

/-! Scalars and lists -/

theorem node_scalar {text : String} {style : Style} :
    node (fuel + 1) block loose ⟨⟨.scalar text style, start, stop⟩ :: rest, anchors, handles⟩ =
      some (.scalar start {} style text, ⟨rest, anchors, handles⟩) := rfl

theorem node_emptyList :
    node (fuel + 2) block loose ⟨⟨.flowSequence, start, stop⟩ ::
        ⟨.flowSequenceEnd, start', stop'⟩ :: rest, anchors, handles⟩ =
      some (.sequence start {} [], ⟨rest, anchors, handles⟩) := rfl

theorem node_entries {items : List Node} (entries : looseEntries (node fuel true false) fuel
      ⟨⟨.blockEntry, start, stop⟩ :: rest, anchors, handles⟩ = some (items, s')) :
    node (fuel + 1) block true ⟨⟨.blockEntry, start, stop⟩ :: rest, anchors, handles⟩ =
      some (.sequence start {} items, s') := by
  have step : node (fuel + 1) block true ⟨⟨.blockEntry, start, stop⟩ :: rest, anchors, handles⟩ =
      (looseEntries (node fuel true false) fuel
        ⟨⟨.blockEntry, start, stop⟩ :: rest, anchors, handles⟩).bind
          fun (items, s) => some (.sequence start {} items, s) := rfl
  rw [step, entries]
  rfl

def Closes (rest : List Token) : Prop := ∀ t, rest.head? = some t → t.kind ≠ .blockEntry

theorem looseEntries_end {item : NodeReader Node} (closes : Closes rest) :
    looseEntries item (fuel + 1) ⟨rest, anchors, handles⟩ =
      some ([], ⟨rest, anchors, handles⟩) := by
  cases rest with
  | nil => rfl
  | cons token rest =>
    have other : token.kind ≠ .blockEntry := closes token rfl
    obtain ⟨kind, start, stop⟩ := token
    cases kind
    case blockEntry => exact absurd rfl other
    all_goals rfl

theorem looseEntries_next {text : String} {style : Style} {items : List Node}
    (entries : looseEntries (node (depth + 1) true false) fuel ⟨rest, anchors, handles⟩ =
      some (items, s')) :
    looseEntries (node (depth + 1) true false) (fuel + 1) ⟨⟨.blockEntry, start, stop⟩ ::
        ⟨.scalar text style, start', stop'⟩ :: rest, anchors, handles⟩ =
      some (.scalar start' {} style text :: items, s') := by
  have step : looseEntries (node (depth + 1) true false) (fuel + 1) ⟨⟨.blockEntry, start, stop⟩ ::
        ⟨.scalar text style, start', stop'⟩ :: rest, anchors, handles⟩ =
      (looseEntries (node (depth + 1) true false) fuel ⟨rest, anchors, handles⟩).bind
        fun (items, s) => some (.scalar start' {} style text :: items, s) := rfl
  rw [step, entries]
  rfl

theorem length_entries (items : List String) :
    (items.flatMap fun item => [TokenKind.blockEntry, .scalar item (styleOf item)]).length =
      2 * items.length := by
  induction items with
  | nil => rfl
  | cons item items ih =>
    rw [List.flatMap_cons, List.length_append, ih, List.length_cons]
    simp only [List.length_cons, List.length_nil]
    omega

theorem looseEntries_shows (closes : Closes rest) : ∀ (items : List String) (fuel : Nat)
    (tokens : List Token),
    tokens.map Token.kind =
        (items.flatMap fun item => [.blockEntry, .scalar item (styleOf item)]) →
      items.length < fuel →
      ∃ nodes, looseEntries (node (depth + 1) true false) fuel
          ⟨tokens ++ rest, anchors, handles⟩ = some (nodes, ⟨rest, anchors, handles⟩) ∧
        ShowsItems nodes items := by
  intro items
  induction items with
  | nil =>
    intro fuel tokens same room
    obtain rfl : tokens = [] := by simpa using same
    obtain ⟨fuel, rfl⟩ : ∃ k, fuel = k + 1 := ⟨fuel - 1, by omega⟩
    exact ⟨[], looseEntries_end closes, .nil⟩
  | cons item items ih =>
    intro fuel tokens same room
    obtain ⟨start, stop, behind, rfl, sameBehind⟩ := exists_token same
    obtain ⟨start', stop', others, rfl, sameOthers⟩ := exists_token sameBehind
    obtain ⟨fuel, rfl⟩ : ∃ k, fuel = k + 1 := ⟨fuel - 1, by omega⟩
    rw [List.length_cons] at room
    obtain ⟨nodes, entries, shown⟩ := ih fuel others sameOthers (by omega)
    exact ⟨_, looseEntries_next entries, .cons start' item shown⟩

/-! Records -/

theorem node_mapping {members : List (Node × Node)}
    (read : blockMembers (node fuel true true) fuel ⟨rest, anchors, handles⟩ =
      some (members, s')) :
    node (fuel + 1) true loose ⟨⟨.blockMapping, start, stop⟩ :: rest, anchors, handles⟩ =
      some (.mapping start {} members, s') := by
  have step : node (fuel + 1) true loose ⟨⟨.blockMapping, start, stop⟩ :: rest, anchors, handles⟩ =
      (blockMembers (node fuel true true) fuel ⟨rest, anchors, handles⟩).bind
        fun (members, s) => some (.mapping start {} members, s) := by
    cases loose <;> rfl
  rw [step, read]
  rfl

theorem blockMembers_end {item : NodeReader Node} :
    blockMembers item (fuel + 1) ⟨⟨.blockEnd, start, stop⟩ :: rest, anchors, handles⟩ =
      some ([], ⟨rest, anchors, handles⟩) := rfl

theorem behind_item {kinds : List TokenKind} {item : NodeReader Node} {token : Token}
    (other : token.kind ∉ kinds) : behind stop kinds item ⟨token :: rest, anchors, handles⟩ =
      item ⟨token :: rest, anchors, handles⟩ := by
  have none : kinds.contains token.kind = false := by
    rw [← Bool.not_eq_true, List.contains_iff_mem]
    exact other
  show ((if kinds.contains token.kind then _ else item) : NodeReader Node) _ = _
  rw [none]
  rfl

theorem blockMembers_next {key : String} {style : Style} {value : Node} {token : Token}
    {tokens : List Token} {members : List (Node × Node)} {m₁ m₂ m₃ m₄ m₅ m₆ : Mark}
    (other : token.kind ∉ [TokenKind.key, .value, .blockEnd])
    (read : node (depth + 1) true true ⟨token :: tokens, anchors, handles⟩ =
      some (value, ⟨rest, anchors, handles⟩))
    (more : blockMembers (node (depth + 1) true true) fuel ⟨rest, anchors, handles⟩ =
      some (members, s')) :
    blockMembers (node (depth + 1) true true) (fuel + 1) ⟨⟨.key, m₁, m₂⟩ ::
        ⟨.scalar key style, m₃, m₄⟩ :: ⟨.value, m₅, m₆⟩ :: token :: tokens, anchors, handles⟩ =
      some ((.scalar m₃ {} style key, value) :: members, s') := by
  have valueRead : behind m₆ [.key, .value, .blockEnd] (node (depth + 1) true true)
      ⟨token :: tokens, anchors, handles⟩ = some (value, ⟨rest, anchors, handles⟩) :=
    (behind_item other).trans read
  have step : blockMembers (node (depth + 1) true true) (fuel + 1) ⟨⟨.key, m₁, m₂⟩ ::
        ⟨.scalar key style, m₃, m₄⟩ :: ⟨.value, m₅, m₆⟩ :: token :: tokens, anchors, handles⟩ =
      (behind m₆ [.key, .value, .blockEnd] (node (depth + 1) true true)
        ⟨token :: tokens, anchors, handles⟩).bind fun (value, s) =>
          (blockMembers (node (depth + 1) true true) fuel s).bind fun (members, s) =>
            some ((.scalar m₃ {} style key, value) :: members, s) := rfl
  rw [step, valueRead, Option.bind_some]
  simp only [more, Option.bind_some]

theorem closes_members (members : List (String × Layout)) {tokens : List Token}
    (same : tokens.map Token.kind = memberKinds members) :
    Closes (tokens ++ ⟨.blockEnd, start, stop⟩ :: rest) := by
  cases members with
  | nil =>
    obtain rfl : tokens = [] := by simpa [memberKinds] using same
    exact fun t first => by
      obtain rfl := Option.some.inj first
      exact TokenKind.noConfusion
  | cons member members =>
    obtain ⟨start', stop', behind, rfl, _⟩ := exists_token same
    exact fun t first => by
      obtain rfl := Option.some.inj first
      exact TokenKind.noConfusion

theorem record_shows {members : List (String × Layout)}
    (read : ∀ (depth fuel : Nat) (tokens rest : List Token) (start stop : Mark),
      tokens.map Token.kind = memberKinds members → (memberKinds members).length < depth →
        (memberKinds members).length < fuel →
          ∃ nodes, blockMembers (node depth true true) fuel
              ⟨tokens ++ ⟨.blockEnd, start, stop⟩ :: rest, anchors, handles⟩ =
            some (nodes, ⟨rest, anchors, handles⟩) ∧ ShowsMembers nodes members)
    (fuel : Nat) (tokens rest : List Token) (same : tokens.map Token.kind = kinds (.record members))
    (room : (kinds (.record members)).length < fuel) :
    ∃ n, node fuel true loose ⟨tokens ++ rest, anchors, handles⟩ =
      some (n, ⟨rest, anchors, handles⟩) ∧ Shows n (.record members) := by
  simp only [kinds, List.cons_append, List.length_cons, List.length_append] at room
  obtain ⟨fuel, rfl⟩ : ∃ k, fuel = k + 1 := ⟨fuel - 1, by omega⟩
  obtain ⟨start, stop, behind, rfl, sameBehind⟩ := exists_token same
  obtain ⟨inside, last, rfl, sameInside, sameLast⟩ := List.map_eq_append_iff.mp sameBehind
  obtain ⟨start', stop', none, rfl, isNil⟩ := exists_token sameLast
  obtain rfl : none = [] := by simpa using isNil
  obtain ⟨nodes, membersRead, shown⟩ :=
    read fuel fuel inside rest start' stop' sameInside (by omega) (by omega)
  rw [List.cons_append, List.append_assoc]
  exact ⟨_, node_mapping membersRead, .record start shown⟩

variable (anchors handles)

mutual

theorem node_shows : ∀ (value : Layout) (fuel : Nat) (tokens rest : List Token),
    tokens.map Token.kind = kinds value → (kinds value).length < fuel → Closes rest →
      ∃ n, node fuel true true ⟨tokens ++ rest, anchors, handles⟩ =
        some (n, ⟨rest, anchors, handles⟩) ∧ Shows n value
  | .word s, fuel, tokens, rest, same, room, _ => by
    obtain ⟨start, stop, behind, rfl, none⟩ := exists_token same
    obtain rfl : behind = [] := by simpa using none
    obtain ⟨fuel, rfl⟩ : ∃ k, fuel = k + 1 := ⟨fuel - 1, by omega⟩
    exact ⟨_, node_scalar, .word start s⟩
  | .text s, fuel, tokens, rest, same, room, _ => by
    obtain ⟨start, stop, behind, rfl, none⟩ := exists_token same
    obtain rfl : behind = [] := by simpa using none
    obtain ⟨fuel, rfl⟩ : ∃ k, fuel = k + 1 := ⟨fuel - 1, by omega⟩
    exact ⟨_, node_scalar, .text start s⟩
  | .list [], fuel, tokens, rest, same, room, _ => by
    obtain ⟨start, stop, behind, rfl, sameBehind⟩ := exists_token same
    obtain ⟨start', stop', others, rfl, none⟩ := exists_token sameBehind
    obtain rfl : others = [] := by simpa using none
    obtain ⟨fuel, rfl⟩ : ∃ k, fuel = k + 2 := ⟨fuel - 2, by simp [kinds] at room; omega⟩
    exact ⟨_, node_emptyList, .list start .nil⟩
  | .list (item :: items), fuel, tokens, rest, same, room, closes => by
    have count : (kinds (.list (item :: items))).length = 2 * (item :: items).length :=
      length_entries (item :: items)
    have given : 0 < (item :: items).length := Nat.succ_pos _
    obtain ⟨depth, rfl⟩ : ∃ k, fuel = k + 2 := ⟨fuel - 2, by omega⟩
    obtain ⟨nodes, entries, shown⟩ : ∃ nodes, looseEntries (node (depth + 1) true false) (depth + 1)
        ⟨tokens ++ rest, anchors, handles⟩ = some (nodes, ⟨rest, anchors, handles⟩) ∧
          ShowsItems nodes (item :: items) :=
      looseEntries_shows closes (item :: items) (depth + 1) tokens same (by omega)
    obtain ⟨start, stop, behind, rfl, _⟩ := exists_token same
    exact ⟨_, node_entries entries, .list start shown⟩
  | .record members, fuel, tokens, rest, same, room, _ =>
    record_shows (members_show members) fuel tokens rest same room

theorem members_show : ∀ (members : List (String × Layout)) (depth fuel : Nat)
    (tokens rest : List Token) (start stop : Mark), tokens.map Token.kind = memberKinds members →
      (memberKinds members).length < depth → (memberKinds members).length < fuel →
        ∃ nodes, blockMembers (node depth true true) fuel
            ⟨tokens ++ ⟨.blockEnd, start, stop⟩ :: rest, anchors, handles⟩ =
          some (nodes, ⟨rest, anchors, handles⟩) ∧ ShowsMembers nodes members
  | [], depth, fuel, tokens, rest, start, stop, same, _, room => by
    obtain rfl : tokens = [] := by simpa [memberKinds] using same
    obtain ⟨fuel, rfl⟩ : ∃ k, fuel = k + 1 := ⟨fuel - 1, by omega⟩
    exact ⟨[], blockMembers_end, .nil⟩
  | (key, value) :: members, depth, fuel, tokens, rest, start, stop, same, deep, room => by
    simp only [memberKinds, List.length_cons, List.length_append] at deep room
    obtain ⟨m₁, m₂, behindKey, rfl, sameKey⟩ := exists_token same
    obtain ⟨m₃, m₄, behindName, rfl, sameName⟩ := exists_token sameKey
    obtain ⟨m₅, m₆, behindColon, rfl, sameColon⟩ := exists_token sameName
    obtain ⟨valueTokens, others, rfl, sameValue, sameOthers⟩ := List.map_eq_append_iff.mp sameColon
    obtain ⟨depth, rfl⟩ : ∃ k, depth = k + 1 := ⟨depth - 1, by omega⟩
    obtain ⟨fuel, rfl⟩ : ∃ k, fuel = k + 1 := ⟨fuel - 1, by omega⟩
    obtain ⟨nodes, more, shown⟩ :=
      members_show members (depth + 1) fuel others rest start stop sameOthers (by omega) (by omega)
    obtain ⟨n, read, first⟩ := node_shows value (depth + 1) valueTokens
      (others ++ ⟨.blockEnd, start, stop⟩ :: rest) sameValue (by omega)
      (closes_members members sameOthers)
    -- a value is missing only where a key, another value or the end of the block comes first
    obtain ⟨kind, kindsBehind, isStart, other⟩ := kinds_start value
    obtain ⟨m₇, m₈, behindValue, rfl, _⟩ := exists_token (sameValue.trans isStart)
    refine ⟨_, ?_, .cons m₃ key first shown⟩
    simp only [List.cons_append, List.append_assoc] at read ⊢
    exact blockMembers_next other read more

end

/-! Documents -/

variable {anchors handles}

theorem document_mapping {root : Node}
    (read : node (fuel + 1) true false
      ⟨⟨.blockMapping, start, stop⟩ :: rest, [], standardHandles⟩ =
        some (root, ⟨[], [], handles⟩)) :
    ∃ s', document (fuel + 1) { tokens := ⟨.blockMapping, start, stop⟩ :: rest } =
      some (⟨some root⟩, s') := by
  obtain ⟨rest', step, ending⟩ : ∃ rest' : Node × Parse → Option (Document × Parse),
      document (fuel + 1) { tokens := ⟨.blockMapping, start, stop⟩ :: rest } =
          (node (fuel + 1) true false
            ⟨⟨.blockMapping, start, stop⟩ :: rest, [], standardHandles⟩).bind rest' ∧
        ∃ s', rest' (root, ⟨[], [], handles⟩) = some (⟨some root⟩, s') := ⟨_, rfl, _, rfl⟩
  rw [step, read]
  exact ending

end Parse

/-- A written document is read as a mapping that shows its members. -/
theorem read?_writeDocument {members : List (String × Layout)} (given : members ≠ [])
    (sound : Layout.AreSound members) :
    ∃ root, Document.read? (Layout.writeDocument members) = some ⟨some root⟩ ∧
      Shows root (.record members) := by
  obtain ⟨tokens, scanned, same⟩ := Layout.tokens?_writeDocument given sound
  have room : (kinds (.record members)).length < tokens.length + 1 := by
    rw [← same, List.length_map]
    omega
  obtain ⟨root, rootRead, shown⟩ : ∃ root, Parse.node (tokens.length + 1) true false
      ⟨tokens ++ [], [], Parse.standardHandles⟩ = some (root, ⟨[], [], Parse.standardHandles⟩) ∧
        Shows root (.record members) :=
    Parse.record_shows (Parse.members_show [] Parse.standardHandles members) _ tokens [] same room
  rw [List.append_nil] at rootRead
  obtain ⟨start, stop, rest, rfl, _⟩ := exists_token same
  obtain ⟨_, documentRead⟩ := Parse.document_mapping rootRead
  refine ⟨root, ?_, shown⟩
  simp only [Document.read?, scanned, Option.bind_eq_bind, Option.bind_some]
  rw [documentRead]
  rfl

end InfraLint.Yaml
