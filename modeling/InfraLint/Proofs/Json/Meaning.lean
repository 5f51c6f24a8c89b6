import InfraLint.Proofs.Json.Skipped

/-!
What a tree means to a reader. The meaning of a list or an object is put together from those of its
parts, and every text of the tree is read as its meaning or, where it has none, refused.
-/
namespace InfraLint.Json
open Reader

variable {α σ : Type}

/-! Meanings -/

def foldMembers? (step : String → Tree → σ → Option σ) (members : List (List Piece × Tree))
    (state : σ) : Option σ :=
  members.foldlM (fun state m => (string? m.1).bind fun key => step key m.2 state) state

def inserted? (inner : Tree → Option α) (key : String) (t : Tree) (ms : Members α) :
    Option (Members α) :=
  (inner t).map (Members.insert key · ms)

def membersOf? (inner : Tree → Option α) (members : List (List Piece × Tree)) :
    Option (Members α) :=
  foldMembers? (inserted? inner) members []

def Tree.valueWith? (inner : Option (Tree → Option Json)) : Tree → Option Json
  | .null => some .null
  | .bool b => some (.bool b)
  | .number negative text _ => outcome? (Reader.number negative) text
  | .string pieces => (string? pieces).map .string
  | .array items => inner.bind fun inner => (items.mapM inner).map .array
  | .object members => inner.bind fun inner => (membersOf? inner members).map .object

def Tree.value? : Nat → Tree → Option Json
  | 0 => Tree.valueWith? none
  | room + 1 => Tree.valueWith? (some (Tree.value? room))

/-! Readings -/

variable {r inner : Reader α} {f : Tree → Option α} {member : String → σ → Reader σ}
  {step : String → Tree → σ → Option σ} {s t rest w space : List Char} {o : Option α}
  {fuel room : Nat} {items : List Item} {members : List Member}

/-- The reader makes one thing of the text, or refuses it, wherever it stands. -/
def Makes (r : Reader α) (s : List Char) (o : Option α) : Prop :=
  ∀ w rest, AllWhite w → Stops rest → Answers r (w ++ (s ++ rest)) o rest

theorem Makes.here (makes : Makes r s o) (stops : Stops rest) : Answers r (s ++ rest) o rest :=
  makes [] rest allWhite_nil stops

/-- A whole text is read as what the reader makes of its value. -/
theorem run_document {reader : Nat → Reader α} {t : Tree} {text : String}
    (document : Document t text) (makes : ∀ {s fuel}, Written t s → s.length < fuel →
      Makes (reader fuel) s o) {a : α} : run reader text = .ok a ↔ o = some a := by
  obtain ⟨before, s, after, white, written, white', whole⟩ := document
  have enough : s.length < text.toList.length + 1 := by
    simp only [whole, List.length_append]
    omega
  have stops : Stops after := by simpa using stops_white white' stops_nil
  have answers := makes written enough before after white stops
  rw [run_eq_ok]
  rw [← whole] at answers
  cases o with
  | none =>
    obtain ⟨failure, failed⟩ := answers ⟨1, 0⟩
    simp [Cursor.start, failed]
  | some b =>
    obtain ⟨place, taken⟩ := answers ⟨1, 0⟩
    obtain ⟨last, ends⟩ := reads_ended white' place
    simp only [Cursor.start, taken, Except.ok.injEq, Prod.mk.injEq, Option.some.injEq]
    constructor
    · rintro ⟨middle, last, ⟨same, _⟩, _⟩
      exact same
    · rintro rfl
      exact ⟨_, _, ⟨rfl, rfl⟩, ends⟩

structure Item.In (fuel : Nat) (i : Item) : Prop where
  spaced : i.Spaced
  isWritten : Written i.tree i.text
  shorter : i.text.length < fuel

structure Member.In (fuel : Nat) (m : Member) : Prop where
  spaced : m.Spaced
  isWritten : Written m.tree m.text
  shorter : m.text.length < fuel

/-! Lists -/

def listText (space : List Char) (items : List Item) (rest : List Char) : List Char :=
  space ++ (joined (items.map Item.written) ++ ']' :: rest)

def behindItem (after : List Char) (items : List Item) (rest : List Char) : List Char :=
  after ++ (behindCommas (items.map Item.written) ++ ']' :: rest)

theorem listText_cons (space : List Char) (i : Item) (items : List Item) (rest : List Char) :
    listText space (i :: items) rest =
      (space ++ i.before) ++ (i.text ++ behindItem i.after items rest) := by
  simp [listText, joined, Item.written, behindItem]

theorem behindItem_cons (after : List Char) (i : Item) (items : List Item) (rest : List Char) :
    behindItem after (i :: items) rest =
      after ++ ',' :: (i.before ++ (i.text ++ behindItem i.after items rest)) := by
  simp [behindItem, behindCommas, Item.written]

theorem stops_behindItem {after : List Char} (white : AllWhite after) (items : List Item)
    (rest : List Char) : Stops (behindItem after items rest) :=
  stops_behind (.inl ⟨rfl, rfl⟩) white _ rest

theorem Item.In.first {i : Item} (inside : i.In fuel) (white : AllWhite space)
    (items : List Item) (rest : List Char) :
    Reads (anotherItem true) (listText space (i :: items) rest) true
      (i.text ++ behindItem i.after items rest) := by
  obtain ⟨x, tail, head, unwhite, more⟩ := written_head inside.isWritten
  rw [listText_cons, head]
  exact reads_firstItem (allWhite_append white inside.spaced.before) unwhite more _

theorem Item.In.next {i : Item} (inside : i.In fuel) (white : AllWhite w) (items : List Item)
    (rest : List Char) :
    Reads (anotherItem false) (behindItem w (i :: items) rest) true
      (i.text ++ behindItem i.after items rest) := by
  obtain ⟨x, tail, head, unwhite, more⟩ := written_head inside.isWritten
  rw [behindItem_cons, head]
  exact reads_nextItem white inside.spaced.before unwhite more _

theorem Makes.item {i : Item} (makes : Makes r i.text o) (inside : i.In fuel) (items : List Item)
    (rest : List Char) :
    Answers r (i.text ++ behindItem i.after items rest) o (behindItem i.after items rest) :=
  makes.here (stops_behindItem inside.spaced.after items rest)

theorem answers_moreItems {first : Bool} {u : List Char} {os : Option (List α)}
    (more : Reads (anotherItem first) s true t) (item : Answers inner t o u)
    (behind : Answers (Reader.items inner fuel false) u os rest) :
    Answers (Reader.items inner (fuel + 1) first) s (o.bind fun a => os.map (a :: ·)) rest :=
  more.answers_bind (item.bind fun a _ => behind.map (a :: ·))

theorem mapM_cons (f : Tree → Option α) (t : Tree) (ts : List Tree) :
    (t :: ts).mapM f = (f t).bind fun a => (ts.mapM f).map (a :: ·) := by
  simp only [List.mapM_cons, Option.map_eq_bind]
  rfl

theorem answers_items {count : Nat} (inside : ∀ i ∈ items, i.In fuel)
    (makes : ∀ i ∈ items, Makes inner i.text (f i.tree)) (enough : items.length < count)
    (white : AllWhite w) (rest : List Char) :
    Answers (Reader.items inner count false) (behindItem w items rest)
      ((items.map Item.tree).mapM f) (']' :: rest) := by
  induction items generalizing count w with
  | nil =>
    obtain ⟨count, rfl⟩ := Nat.exists_eq_add_one.mpr enough
    exact reads_noItems (reads_listEnd white rest)
  | cons i items ih =>
    obtain ⟨count, rfl⟩ := Nat.exists_eq_add_one.mpr (Nat.zero_lt_of_lt enough)
    obtain ⟨here, inside⟩ := List.forall_mem_cons.mp inside
    obtain ⟨item, makes⟩ := List.forall_mem_cons.mp makes
    rw [List.map_cons, mapM_cons]
    exact answers_moreItems (here.next white items rest) (item.item here items rest)
      (ih inside makes (Nat.lt_of_succ_lt_succ enough) here.spaced.after)

theorem answers_list (inside : ∀ i ∈ items, i.In fuel)
    (makes : ∀ i ∈ items, Makes inner i.text (f i.tree)) (enough : items.length < fuel)
    (white : AllWhite space) (rest : List Char) :
    Answers (enclosed (Reader.items inner fuel true) ']') (listText space items rest)
      ((items.map Item.tree).mapM f) rest := by
  apply answers_enclosedList allWhite_nil
  cases items with
  | nil =>
    obtain ⟨count, rfl⟩ := Nat.exists_eq_add_one.mpr enough
    exact reads_noItems (reads_listEnd white rest)
  | cons i items =>
    obtain ⟨here, others⟩ := List.forall_mem_cons.mp inside
    obtain ⟨item, makes⟩ := List.forall_mem_cons.mp makes
    have behind := answers_items others makes (Nat.lt_pred_of_succ_lt enough) here.spaced.after rest
    rw [List.map_cons, mapM_cons]
    obtain ⟨count, rfl⟩ := Nat.exists_eq_add_one.mpr (Nat.zero_lt_of_lt enough)
    exact answers_moreItems (here.first white items rest) (item.item here items rest) behind

/-! Objects -/

def objectText (space : List Char) (members : List Member) (rest : List Char) : List Char :=
  space ++ (joined (members.map Member.written) ++ '}' :: rest)

def behindMember (after : List Char) (members : List Member) (rest : List Char) : List Char :=
  after ++ (behindCommas (members.map Member.written) ++ '}' :: rest)

def behindName (m : Member) (rest : List Char) : List Char :=
  m.gap ++ ':' :: (m.space ++ (m.text ++ rest))

theorem stops_behindMember {after : List Char} (white : AllWhite after) (members : List Member)
    (rest : List Char) : Stops (behindMember after members rest) :=
  stops_behind (.inr ⟨rfl, rfl⟩) white _ rest

theorem Member.In.first {m : Member} (inside : m.In fuel) (white : AllWhite space)
    (members : List Member) (rest : List Char) :
    Reads (anotherMember true) (objectText space (m :: members) rest) true
      (spelled m.name ++ '"' :: behindName m (behindMember m.after members rest)) := by
  have ahead := reads_firstMember (allWhite_append white inside.spaced.before)
    (spelled m.name ++ '"' :: behindName m (behindMember m.after members rest))
  simpa [objectText, joined, Member.written, Member.value, behindName, behindMember] using ahead

theorem Member.In.next {m : Member} (inside : m.In fuel) (white : AllWhite w)
    (members : List Member) (rest : List Char) :
    Reads (anotherMember false) (behindMember w (m :: members) rest) true
      (spelled m.name ++ '"' :: behindName m (behindMember m.after members rest)) := by
  have ahead := reads_nextMember white inside.spaced.before
    (spelled m.name ++ '"' :: behindName m (behindMember m.after members rest))
  simpa [behindMember, behindCommas, Member.written, Member.value, behindName] using ahead

def Member.Taken (member : String → σ → Reader σ) (step : String → Tree → σ → Option σ)
    (m : Member) : Prop :=
  ∀ key state rest, Stops rest →
    Answers (member key state) (behindName m rest) (step key m.tree state) rest

theorem foldMembers?_cons (step : String → Tree → σ → Option σ) (m : List Piece × Tree)
    (members : List (List Piece × Tree)) (state : σ) :
    foldMembers? step (m :: members) state =
      (string? m.1).bind fun key => (step key m.2 state).bind (foldMembers? step members) := by
  rw [← Option.bind_assoc]
  rfl

theorem answers_moreMembers {first : Bool} {u : List Char} {m : Member} {g : σ → Option σ}
    {state : σ} (taken : m.Taken member step)
    (more : Reads (anotherMember first) s true (spelled m.name ++ '"' :: behindName m u))
    (stops : Stops u)
    (behind : ∀ state', Answers (Reader.members member fuel false state') u (g state') rest) :
    Answers (Reader.members member (fuel + 1) first state) s
      ((string? m.name).bind fun key => (step key m.tree state).bind g) rest :=
  more.answers_bind ((answers_string m.name _).bind fun key _ =>
    (taken key state u stops).bind fun state' _ => behind state')

theorem answers_members {count : Nat} (inside : ∀ m ∈ members, m.In fuel)
    (taken : ∀ m ∈ members, m.Taken member step) (enough : members.length < count)
    (white : AllWhite w) (rest : List Char) (state : σ) :
    Answers (Reader.members member count false state) (behindMember w members rest)
      (foldMembers? step (members.map Member.pair) state) ('}' :: rest) := by
  induction members generalizing count w state with
  | nil =>
    obtain ⟨count, rfl⟩ := Nat.exists_eq_add_one.mpr enough
    exact reads_noMembers (reads_objectEnd white rest) state
  | cons m members ih =>
    obtain ⟨count, rfl⟩ := Nat.exists_eq_add_one.mpr (Nat.zero_lt_of_lt enough)
    obtain ⟨here, inside⟩ := List.forall_mem_cons.mp inside
    obtain ⟨first, taken⟩ := List.forall_mem_cons.mp taken
    rw [List.map_cons, foldMembers?_cons]
    exact answers_moreMembers first (here.next white members rest)
      (stops_behindMember here.spaced.after members rest)
      (ih inside taken (Nat.lt_of_succ_lt_succ enough) here.spaced.after)

/-- The whole content of an object. -/
theorem answers_content (inside : ∀ m ∈ members, m.In fuel)
    (taken : ∀ m ∈ members, m.Taken member step) (enough : members.length < fuel)
    (white : AllWhite space) (rest : List Char) (state : σ) :
    Answers (Reader.members member fuel true state) (objectText space members rest)
      (foldMembers? step (members.map Member.pair) state) ('}' :: rest) := by
  cases members with
  | nil =>
    obtain ⟨count, rfl⟩ := Nat.exists_eq_add_one.mpr enough
    exact reads_noMembers (reads_objectEnd white rest) state
  | cons m members =>
    obtain ⟨here, others⟩ := List.forall_mem_cons.mp inside
    obtain ⟨first, taken⟩ := List.forall_mem_cons.mp taken
    have behind := answers_members others taken (Nat.lt_pred_of_succ_lt enough) here.spaced.after
      rest
    rw [List.map_cons, foldMembers?_cons]
    obtain ⟨count, rfl⟩ := Nat.exists_eq_add_one.mpr (Nat.zero_lt_of_lt enough)
    exact answers_moreMembers first (here.first white members rest)
      (stops_behindMember here.spaced.after members rest) behind

theorem answers_memberValues (inside : ∀ m ∈ members, m.In fuel)
    (makes : ∀ m ∈ members, Makes inner m.text (f m.tree)) (enough : members.length < fuel)
    (white : AllWhite space) (rest : List Char) :
    Answers (enclosed (memberValues inner fuel) '}') (objectText space members rest)
      (membersOf? f (members.map Member.pair)) rest := by
  apply answers_enclosedObject allWhite_nil
  refine answers_content inside ?_ enough white rest []
  intro m member key ms rest stops
  exact (reads_colon (inside m member).spaced.gap _).answers_bind
    ((makes m member m.space rest (inside m member).spaced.space stops).map
      (Members.insert key · ms))

/-! Values -/

variable {nested : Option (Reader Json)} {nested? : Option (Tree → Option Json)}

theorem makes_null : Makes (valueWith fuel nested) "null".toList (some .null) :=
  fun _ rest white _ => (reads_peekPastWhite white (unwhite_cons.mpr rfl)).bind
    ((reads_advance _ _).bind ((reads_word "ull".toList rest).bind (reads_pure _ _)))

theorem makes_true : Makes (valueWith fuel nested) "true".toList (some (.bool true)) :=
  fun _ rest white _ => (reads_peekPastWhite white (unwhite_cons.mpr rfl)).bind
    ((reads_advance _ _).bind ((reads_word "rue".toList rest).bind (reads_pure _ _)))

theorem makes_false : Makes (valueWith fuel nested) "false".toList (some (.bool false)) :=
  fun _ rest white _ => (reads_peekPastWhite white (unwhite_cons.mpr rfl)).bind
    ((reads_advance _ _).bind ((reads_word "alse".toList rest).bind (reads_pure _ _)))

theorem makes_negative {text : List Char} (isNumber : NumberText text) :
    Makes (valueWith fuel nested) ('-' :: text) (outcome? (number true) text) :=
  fun _ _ white stops => (reads_peekPastWhite white (unwhite_cons.mpr rfl)).answers_bind
    ((reads_advance _ _).answers_bind ((settled_number isNumber).answers stops))

theorem makes_positive {text : List Char} (isNumber : NumberText text) :
    Makes (valueWith fuel nested) text (outcome? (number false) text) := by
  obtain ⟨x, tail, rfl, digit⟩ := whole_head isNumber
  intro w rest white stops
  refine (reads_peekPastWhite white (unwhite_cons.mpr (digit_not_white digit))).answers_bind ?_
  have taken : Answers (number false) _ _ rest := (settled_number isNumber).answers stops
  rw [List.head?_cons]
  dsimp only
  split
  · cases digit
  · cases digit
  · cases digit
  · cases digit
  · cases digit
  · cases digit
  · cases digit
  · rw [if_pos digit]
    exact taken

theorem makes_string (pieces : List Piece) :
    Makes (valueWith fuel nested) ('"' :: (spelled pieces ++ ['"']))
      ((string? pieces).map .string) := by
  intro w rest white _
  rw [List.cons_append, List.append_assoc]
  exact (reads_peekPastWhite white (unwhite_cons.mpr rfl)).answers_bind
    ((reads_advance _ _).answers_bind ((answers_string pieces rest).map Json.string))

section Nested

variable {inner : Reader Json} {f : Tree → Option Json}

theorem makes_array (inside : ∀ i ∈ items, i.In fuel)
    (makes : ∀ i ∈ items, Makes inner i.text (f i.tree)) (enough : items.length < fuel)
    (white : AllWhite space) :
    Makes (valueWith fuel (some inner))
      ('[' :: (space ++ (joined (items.map Item.written) ++ [']'])))
      (((items.map Item.tree).mapM f).map .array) := by
  intro w rest white' _
  have content := (answers_list inside makes enough white rest).map Json.array
  simp only [List.cons_append, List.append_assoc, List.nil_append]
  exact (reads_peekPastWhite white' (unwhite_cons.mpr rfl)).answers_bind
    ((reads_advance _ _).answers_bind content)

theorem makes_object (inside : ∀ m ∈ members, m.In fuel)
    (makes : ∀ m ∈ members, Makes inner m.text (f m.tree)) (enough : members.length < fuel)
    (white : AllWhite space) :
    Makes (valueWith fuel (some inner))
      ('\x7b' :: (space ++ (joined (members.map Member.written) ++ ['}'])))
      ((membersOf? f (members.map Member.pair)).map .object) := by
  intro w rest white' _
  have content := (answers_memberValues inside makes enough white rest).map Json.object
  simp only [List.cons_append, List.append_assoc, List.nil_append]
  exact (reads_peekPastWhite white' (unwhite_cons.mpr rfl)).answers_bind
    ((reads_advance _ _).answers_bind content)

theorem makes_tooDeep {bracket ending : Char} (pair : Pair bracket ending) (s : List Char) :
    Makes (valueWith fuel none) (bracket :: s) none := by
  intro w rest white _
  rcases pair with ⟨rfl, _⟩ | ⟨rfl, _⟩
  · exact (reads_peekPastWhite white (unwhite_cons.mpr rfl)).fails_bind (fails_failAhead _ _)
  · exact (reads_peekPastWhite white (unwhite_cons.mpr rfl)).fails_bind (fails_failAhead _ _)

end Nested

/- Fuel bounds the items of a list, and there are fewer than its text has characters. -/
theorem Item.fewer {fuel : Nat} (enough : ('[' :: (space ++ (joined (items.map Item.written) ++
    [']']))).length < fuel) : items.length < fuel := by
  have := count_le_joined (items.map Item.written)
  simp only [List.length_cons, List.length_append, List.length_map] at this enough
  omega

theorem Member.fewer {fuel : Nat} (enough : ('\x7b' :: (space ++ (joined
    (members.map Member.written) ++ ['}']))).length < fuel) : members.length < fuel := by
  have := count_le_joined (members.map Member.written)
  simp only [List.length_cons, List.length_append, List.length_map] at this enough
  omega

theorem items_in (spaced : ∀ i ∈ items, i.Spaced) (each : ∀ i ∈ items, Written i.tree i.text)
    (enough : ('[' :: (space ++ (joined (items.map Item.written) ++ [']']))).length < fuel) :
    ∀ i ∈ items, i.In fuel := fun i inside =>
  ⟨spaced i inside, each i inside, Nat.lt_trans (Item.shorter space inside) enough⟩

theorem members_in (spaced : ∀ m ∈ members, m.Spaced)
    (each : ∀ m ∈ members, Written m.tree m.text)
    (enough : ('\x7b' :: (space ++ (joined (members.map Member.written) ++ ['}']))).length < fuel) :
    ∀ m ∈ members, m.In fuel := fun m inside =>
  ⟨spaced m inside, each m inside, Nat.lt_trans (Member.shorter space inside).1 enough⟩

/- By induction on the tree, with one level less to go for what is inside. -/
theorem makes_value {t : Tree} (written : Written t s) (enough : s.length < fuel) (room : Nat) :
    Makes (value fuel room) s (Tree.value? room t) := by
  induction written generalizing room with
  | null => cases room <;> exact makes_null
  | true => cases room <;> exact makes_true
  | false => cases room <;> exact makes_false
  | positive isNumber => cases room <;> exact makes_positive isNumber
  | negative isNumber => cases room <;> exact makes_negative isNumber
  | string pieces => cases room <;> exact makes_string pieces
  | @array items space white spaced each ih =>
    have inside := items_in spaced each enough
    cases room with
    | zero => exact makes_tooDeep (.inl ⟨rfl, rfl⟩) _
    | succ room =>
      exact makes_array inside (fun i member => ih i member (inside i member).shorter room)
        (Item.fewer enough) white
  | @object members space white spaced each ih =>
    have inside := members_in spaced each enough
    cases room with
    | zero => exact makes_tooDeep (.inr ⟨rfl, rfl⟩) _
    | succ room =>
      exact makes_object inside (fun m member => ih m member (inside m member).shorter room)
        (Member.fewer enough) white

end InfraLint.Json
