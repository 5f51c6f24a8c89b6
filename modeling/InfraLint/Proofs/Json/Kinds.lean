import InfraLint.Proofs.Json.Meaning
import InfraLint.Proofs.Json.Objects

/-!
What a tree means to a reader that wants a value of a known kind: a string, a list or a record. A
tree of any other kind has no meaning to it.
-/
namespace InfraLint.Json
open Reader

variable {α : Type}

def Tree.string? : Tree → Option String
  | .string pieces => Json.string? pieces
  | _ => none

/-- One level of nesting is taken. -/
def opened? (inside : Nat → Option α) : Nat → Option α
  | 0 => none
  | room + 1 => inside room

def Tree.listOf? (item : Nat → Tree → Option α) (room : Nat) : Tree → Option (List α)
  | .array items => opened? (fun room => items.mapM (item room)) room
  | _ => none

/-- A record, by the members of an object or by the items of a list. -/
def Tree.record? (ofMembers : Nat → List (List Piece × Tree) → Option α)
    (ofItems : Nat → List Tree → Option α) (room : Nat) : Tree → Option α
  | .object members => opened? (fun room => ofMembers room members) room
  | .array items => opened? (fun room => ofItems room items) room
  | _ => none

variable {r : Reader α} {s t rest w : List Char} {o : Option α} {fuel room : Nat}
  {items : List Item}

/-- The character that tells a string, a list or an object. -/
def Tree.mark? : Tree → Option Char
  | .string _ => some '"'
  | .array _ => some '['
  | .object _ => some '\x7b'
  | _ => none

theorem written_mark {t : Tree} (written : Written t s) : ∃ x rest, s = x :: rest ∧
    Cursor.isWhite x = false ∧ ∀ c ∈ ['"', '[', '\x7b'], x = c → t.mark? = some c := by
  cases written with
  | null => exact ⟨'n', _, rfl, rfl, by simp⟩
  | true => exact ⟨'t', _, rfl, rfl, by simp⟩
  | false => exact ⟨'f', _, rfl, rfl, by simp⟩
  | positive isNumber =>
    obtain ⟨x, rest, rfl, digit⟩ := whole_head isNumber
    refine ⟨x, rest, rfl, digit_not_white digit, ?_⟩
    rintro c quoted rfl
    simp only [List.mem_cons, List.not_mem_nil, or_false] at quoted
    rcases quoted with rfl | rfl | rfl <;> cases digit
  | negative => exact ⟨_, _, rfl, rfl, by simp⟩
  | string pieces => exact ⟨_, _, rfl, rfl, by simp [Tree.mark?]⟩
  | array => exact ⟨_, _, rfl, rfl, by simp [Tree.mark?]⟩
  | object => exact ⟨_, _, rfl, rfl, by simp [Tree.mark?]⟩

theorem fails_refuse (expected : String) (s : List Char) :
    Fails (refuse fuel expected : Reader α) s :=
  fails_of_yields (refuse_fails expected) s

/-- A value is refused that does not begin as a value of a kind that is wanted. -/
theorem fails_unmarked {t : Tree} {next : Option Char → Reader α} (marks : List Char)
    (written : Written t s) (white : AllWhite w) (known : ∀ c ∈ marks, c ∈ ['"', '[', '\x7b'])
    (unmarked : ∀ c ∈ marks, t.mark? ≠ some c)
    (refused : ∀ x s, x ∉ marks → Fails (next (some x)) s) (rest : List Char) :
    Fails (do next (← peekPastWhite)) (w ++ (s ++ rest)) := by
  obtain ⟨x, tail, rfl, unwhite, marked⟩ := written_mark written
  refine (reads_peekPastWhite white (unwhite_cons.mpr unwhite)).fails_bind ?_
  exact refused x _ fun member => unmarked x member (marked x (known x member) rfl)

theorem makes_stringValue {t : Tree} (written : Written t s) :
    Makes (stringValue fuel) s t.string? := by
  intro w rest white _
  have text := written
  cases written with
  | string pieces =>
    rw [List.cons_append, List.append_assoc]
    exact (reads_peekPastWhite white (unwhite_cons.mpr rfl)).answers_bind
      ((reads_advance _ _).answers_bind (answers_string pieces rest))
  | _ =>
    refine fails_unmarked ['"'] text white (by simp) (by simp [Tree.mark?]) ?_ rest
    intro x s other
    split
    · contradiction
    · rename_i same
      cases same
      simp at other
    · exact fails_refuse _ _

theorem answers_nested {inside : Nat → Reader α} {x : Char} {made : Nat → Option α}
    (answers : ∀ room, Answers (inside room) s (made room) t) :
    Answers (Reader.nested room inside) (x :: s) (opened? made room) t := by
  cases room with
  | zero => exact fails_failAhead _ _
  | succ room => exact (reads_advance x s).answers_bind (answers room)

theorem makes_listOf {t : Tree} {item : Nat → Reader α} {item? : Nat → Tree → Option α}
    (written : Written t s) (enough : s.length < fuel)
    (each : ∀ room (i : Item), i.In fuel → Makes (item room) i.text (item? room i.tree)) :
    Makes (listOf fuel room item) s (Tree.listOf? item? room t) := by
  intro w rest white _
  have text := written
  cases written with
  | @array items space white' spaced written =>
    have inside := items_in spaced written enough
    simp only [List.cons_append, List.append_assoc, List.nil_append]
    have content (room : Nat) := answers_list inside
      (fun i member => each room i (inside i member)) (Item.fewer enough) white' rest
    exact (reads_peekPastWhite white (unwhite_cons.mpr rfl)).answers_bind (answers_nested content)
  | _ =>
    refine fails_unmarked ['['] text white (by simp) (by simp [Tree.mark?]) ?_ rest
    intro x s other
    split
    · contradiction
    · rename_i same
      cases same
      simp at other
    · exact fails_refuse _ _

theorem makes_record {t : Tree} {name : String} {ofObject ofList : Nat → Reader α}
    {ofMembers? : Nat → List (List Piece × Tree) → Option α}
    {ofItems? : Nat → List Tree → Option α} (written : Written t s) (enough : s.length < fuel)
    (objects : ∀ room (members : List Member) space rest, AllWhite space →
      (∀ m ∈ members, m.In fuel) → members.length < fuel →
      Answers (enclosed (ofObject room) '}') (objectText space members rest)
        (ofMembers? room (members.map Member.pair)) rest)
    (lists : ∀ room (items : List Item) space rest, AllWhite space → (∀ i ∈ items, i.In fuel) →
      Answers (enclosed (ofList room) ']') (listText space items rest)
        (ofItems? room (items.map Item.tree)) rest) :
    Makes (record fuel room name ofObject ofList) s (Tree.record? ofMembers? ofItems? room t) := by
  intro w rest white _
  have text := written
  cases written with
  | @array items space white' spaced written =>
    simp only [List.cons_append, List.append_assoc, List.nil_append]
    exact (reads_peekPastWhite white (unwhite_cons.mpr rfl)).answers_bind
      (answers_nested fun room =>
        lists room items space rest white' (items_in spaced written enough))
  | @object members space white' spaced written =>
    simp only [List.cons_append, List.append_assoc, List.nil_append]
    exact (reads_peekPastWhite white (unwhite_cons.mpr rfl)).answers_bind
      (answers_nested fun room => objects room members space rest white'
        (members_in spaced written enough) (Member.fewer enough))
  | _ =>
    refine fails_unmarked ['[', '\x7b'] text white (by simp) (by simp [Tree.mark?]) ?_ rest
    intro x s other
    split
    · contradiction
    · rename_i same
      cases same
      simp at other
    · rename_i same
      cases same
      simp at other
    · exact fails_refuse _ _

/-! Fields -/

/-- The value of a field that must not have one yet. -/
def field? (known made : Option α) : Option (Option α) :=
  if known.isSome then none else made.map some

theorem field?_none (known : Option α) : field? known none = none := by
  cases known <;> rfl

theorem field?_eq_some {known made o : Option α} :
    field? known made = some o ↔ known = none ∧ made.isSome ∧ o = made := by
  cases known <;> cases made <;> simp [field?, eq_comm]

theorem answers_field {m : Member} {name : String} {known : Option α} (inside : m.In fuel)
    (value : Makes r m.text o) (stops : Stops rest) :
    Answers (field name known r) (behindName m rest) (field? known o) rest := by
  unfold field field?
  cases known with
  | some a => exact (fails_wait _ _).bind _
  | none =>
    exact (reads_colon inside.spaced.gap _).answers_bind
      ((value m.space rest inside.spaced.space stops).map some)

theorem reads_skipMember {m : Member} (inside : m.In fuel) (stops : Stops rest) :
    Reads (skipMember fuel) (behindName m rest) () rest :=
  (reads_colon inside.spaced.gap _).bind
    (reads_skipValue inside.isWritten inside.shorter inside.spaced.space stops)

theorem answers_required (name : String) (o : Option α) (s : List Char) :
    Answers (required name o) s o s := by
  cases o with
  | none => exact fails_wait _ s
  | some a => exact reads_pure a s

/-! Fields in the order of a list -/

theorem fails_positional {first : Bool} {fault : Fault}
    (ends : Reads (anotherItem first) s false t) : Fails (positional first fault r) s :=
  ends.fails_bind (fails_wait _ _)

theorem answers_firstField {i : Item} (fault : Fault) (inside : i.In fuel) (white : AllWhite w)
    (items : List Item) (rest : List Char) (value : Makes r i.text o) :
    Answers (positional true fault r) (listText w (i :: items) rest) o
      (behindItem i.after items rest) :=
  (inside.first white items rest).answers_bind (value.item inside items rest)

theorem answers_nextField {i : Item} (fault : Fault) (inside : i.In fuel) (white : AllWhite w)
    (items : List Item) (rest : List Char) (value : Makes r i.text o) :
    Answers (positional false fault r) (behindItem w (i :: items) rest) o
      (behindItem i.after items rest) :=
  (inside.next white items rest).answers_bind (value.item inside items rest)

/-- No item may be left when the fields of a record have been read. -/
theorem fails_moreLeft {i : Item} (content : Answers r s o (behindItem w (i :: items) rest))
    (white : AllWhite w) : Fails (enclosed r ']') s := by
  cases o with
  | none => exact Fails.enclosed content
  | some a =>
    have comma (u : List Char) : Fails endList (w ++ ',' :: u) := by
      refine (reads_peekPastWhite white (unwhite_cons.mpr rfl)).fails_bind ?_
      refine (reads_advance _ _).fails_bind (fails_of_yields (yields_bind fun next => ?_) u)
      split <;> exact yields_failAhead _
    intro place
    obtain ⟨middle, taken⟩ := content place
    rw [behindItem_cons] at taken
    obtain ⟨failure, failed⟩ := comma (i.before ++ (i.text ++ behindItem i.after items rest)) middle
    exact ⟨failure, by simp [enclosed, taken, failed]⟩

end InfraLint.Json
