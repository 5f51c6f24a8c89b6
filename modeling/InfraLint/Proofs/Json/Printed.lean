import InfraLint.Proofs.Json.Ordered
import InfraLint.Proofs.Json.Strings

/-!
Printed values read back. A list or an object is read item by item, over the line breaks and indents
between them. What comes back is the value with the members of its objects in the order of their
keys. Values with numbers are left out.
-/
namespace InfraLint.Json
open Reader

variable {w rest : List Char} {fuel room level : Nat}

/-- No number is in the value, and its lists and objects nest at most `room` levels deep. -/
inductive Textual : Nat → Json → Prop where
  | null {room : Nat} : Textual room .null
  | bool {room : Nat} (b : Bool) : Textual room (.bool b)
  | string {room : Nat} (str : String) : Textual room (.string str)
  | array {room : Nat} {items : List Json} (each : ∀ j ∈ items, Textual room j) :
      Textual (room + 1) (.array items)
  | object {room : Nat} {members : List (String × Json)}
      (each : ∀ m ∈ members, Textual room m.2) : Textual (room + 1) (.object members)

theorem allWhite_newLine (level : Nat) : AllWhite (newLine level) := by
  intro x member
  simp only [newLine, List.mem_cons, List.mem_replicate] at member
  rcases member with rfl | ⟨_, rfl⟩ <;> rfl

theorem printAt_head {j : Json} (textual : Textual room j) (level : Nat) :
    ∃ x s, j.printAt level = x :: s ∧ Cursor.isWhite x = false ∧ x ≠ ']' := by
  cases textual with
  | null => exact ⟨'n', _, rfl, rfl, by decide⟩
  | bool b =>
    cases b with
    | false => exact ⟨'f', _, rfl, rfl, by decide⟩
    | true => exact ⟨'t', _, rfl, rfl, by decide⟩
  | string str =>
    simp only [printAt, printString, List.cons_append]
    exact ⟨'"', _, rfl, rfl, by decide⟩
  | @array _ items =>
    cases items with
    | nil => exact ⟨'[', _, rfl, rfl, by decide⟩
    | cons j items =>
      simp only [printAt, List.cons_append]
      exact ⟨'[', _, rfl, rfl, by decide⟩
  | @object _ members =>
    cases members with
    | nil => exact ⟨'\x7b', _, rfl, rfl, by decide⟩
    | cons m members =>
      simp only [printAt, List.cons_append]
      exact ⟨'\x7b', _, rfl, rfl, by decide⟩

section Inner

variable {reader : Reader Json} {items : List Json} {members : List (String × Json)}

/-- The reader takes a printed value, behind white space too. -/
def TakesPrinted (reader : Reader Json) (level : Nat) (j : Json) : Prop :=
  ∀ w rest, AllWhite w → Reads reader (w ++ (j.printAt level ++ rest)) j.ordered rest

theorem TakesPrinted.here {j : Json} (takes : TakesPrinted reader level j) (rest : List Char) :
    Reads reader (j.printAt level ++ rest) j.ordered rest :=
  takes [] rest allWhite_nil

theorem reads_printItems (textual : ∀ j ∈ items, Textual room j)
    (each : ∀ j ∈ items, TakesPrinted reader level j) (enough : items.length < fuel)
    (white : AllWhite w) (rest : List Char) : Reads (Reader.items reader fuel false)
      (printItems level items ++ (w ++ ']' :: rest)) (orderedItems items) (']' :: rest) := by
  induction items generalizing fuel with
  | nil =>
    cases fuel with
    | zero => simp at enough
    | succ fuel => exact reads_noItems (reads_listEnd white rest)
  | cons j items ih =>
    cases fuel with
    | zero => simp at enough
    | succ fuel =>
      obtain ⟨x, s, head, stop, more⟩ := printAt_head (textual j (by simp)) level
      have behind := ih (fun j member => textual j (by simp [member]))
        (fun j member => each j (by simp [member])) (Nat.lt_of_succ_lt_succ enough)
      have item := (each j (by simp)).here (printItems level items ++ (w ++ ']' :: rest))
      refine reads_moreItems ?_ item behind
      simp only [printItems, head, List.cons_append, List.append_assoc]
      exact reads_nextItem allWhite_nil (allWhite_newLine level) stop more _

theorem reads_firstPrinted {j : Json} (textual : ∀ i ∈ j :: items, Textual room i)
    (each : ∀ i ∈ j :: items, TakesPrinted reader level i) (enough : items.length < fuel)
    (white : AllWhite w) (rest : List Char) : Reads (Reader.items reader (fuel + 1) true)
      (newLine level ++ (j.printAt level ++ (printItems level items ++ (w ++ ']' :: rest))))
      (orderedItems (j :: items)) (']' :: rest) := by
  obtain ⟨x, s, head, stop, more⟩ := printAt_head (textual j (by simp)) level
  have item := (each j (by simp)).here (printItems level items ++ (w ++ ']' :: rest))
  have behind := reads_printItems (fun i member => textual i (by simp [member]))
    (fun i member => each i (by simp [member])) enough white rest
  refine reads_moreItems ?_ item behind
  rw [head]
  exact reads_firstItem (allWhite_newLine level) stop more _

theorem reads_member {j : Json} (takes : TakesPrinted reader level j) (key : String)
    (ms : Members Json) (rest : List Char) :
    Reads (do colon; return Members.insert key (← reader) ms)
      (':' :: ' ' :: (j.printAt level ++ rest)) (Members.insert key j.ordered ms) rest := by
  have space : AllWhite [' '] := by simp [AllWhite, Cursor.isWhite]
  exact (reads_colon allWhite_nil _).bind ((takes [' '] rest space).bind (reads_pure _ _))

theorem reads_printMembers (each : ∀ m ∈ members, TakesPrinted reader level m.2)
    (enough : members.length < fuel) (white : AllWhite w) (rest : List Char) (ms : Members Json) :
    Reads (Reader.members (fun key ms => do colon; return Members.insert key (← reader) ms)
        fuel false ms) (printMembers level members ++ (w ++ '}' :: rest))
      ((orderedMembers members).foldl (fun ms (k, v) => Members.insert k v ms) ms)
      ('}' :: rest) := by
  induction members generalizing fuel ms with
  | nil =>
    cases fuel with
    | zero => simp at enough
    | succ fuel => exact reads_noMembers (reads_objectEnd white rest) ms
  | cons m members ih =>
    obtain ⟨key, j⟩ := m
    cases fuel with
    | zero => simp at enough
    | succ fuel =>
      have behind := ih (fun m member => each m (by simp [member]))
        (Nat.lt_of_succ_lt_succ enough) (Members.insert key j.ordered ms)
      have taken := reads_member (each (key, j) (by simp)) key ms
        (printMembers level members ++ (w ++ '}' :: rest))
      refine reads_moreMembers ?_ (reads_string key _) taken behind
      simp only [printMembers, printString, List.cons_append, List.append_assoc, List.nil_append]
      exact reads_nextMember allWhite_nil (allWhite_newLine level) _

theorem reads_firstPrintedMember {m : String × Json}
    (each : ∀ i ∈ m :: members, TakesPrinted reader level i.2) (enough : members.length < fuel)
    (white : AllWhite w) (rest : List Char) : Reads (memberValues reader (fuel + 1))
      (newLine level ++ (printString m.1 ++ ':' :: ' ' :: (m.2.printAt level ++
        (printMembers level members ++ (w ++ '}' :: rest)))))
      (Members.ofList (orderedMembers (m :: members))) ('}' :: rest) := by
  obtain ⟨key, j⟩ := m
  have taken := reads_member (each (key, j) (by simp)) key []
    (printMembers level members ++ (w ++ '}' :: rest))
  have behind := reads_printMembers (fun i member => each i (by simp [member])) enough white rest
    (Members.insert key j.ordered [])
  refine reads_moreMembers ?_ (reads_string key _) taken behind
  simp only [printString, List.cons_append, List.append_assoc, List.nil_append]
  exact reads_firstMember (allWhite_newLine level) _

end Inner

theorem length_printItems (level : Nat) (items : List Json) :
    items.length ≤ (printItems level items).length ∧
      ∀ j ∈ items, (j.printAt level).length ≤ (printItems level items).length := by
  induction items with
  | nil => simp [printItems]
  | cons j items ih =>
    obtain ⟨count, each⟩ := ih
    simp only [printItems, List.length_cons, List.length_append, List.cons_append]
    refine ⟨by omega, ?_⟩
    intro i member
    rcases List.mem_cons.mp member with rfl | member
    · omega
    · have := each i member
      omega

theorem length_printMembers (level : Nat) (members : List (String × Json)) :
    members.length ≤ (printMembers level members).length ∧
      ∀ m ∈ members, (m.2.printAt level).length ≤ (printMembers level members).length := by
  induction members with
  | nil => simp [printMembers]
  | cons m members ih =>
    obtain ⟨key, j⟩ := m
    obtain ⟨count, each⟩ := ih
    simp only [printMembers, List.length_cons, List.length_append, List.cons_append]
    refine ⟨by omega, ?_⟩
    intro i member
    rcases List.mem_cons.mp member with rfl | member
    · dsimp only
      omega
    · have := each i member
      omega

theorem length_printAt_array (level : Nat) (items : List Json) :
    items.length < ((Json.array items).printAt level).length ∧ ∀ j ∈ items,
      (j.printAt (level + 1)).length < ((Json.array items).printAt level).length := by
  cases items with
  | nil => simp [printAt]
  | cons j items =>
    obtain ⟨count, each⟩ := length_printItems (level + 1) items
    simp only [printAt, List.length_cons, List.length_append, List.cons_append]
    refine ⟨by omega, ?_⟩
    intro i member
    rcases List.mem_cons.mp member with rfl | member
    · omega
    · have := each i member
      omega

theorem length_printAt_object (level : Nat) (members : List (String × Json)) :
    members.length < ((Json.object members).printAt level).length ∧ ∀ m ∈ members,
      (m.2.printAt (level + 1)).length < ((Json.object members).printAt level).length := by
  cases members with
  | nil => simp [printAt]
  | cons m members =>
    obtain ⟨key, j⟩ := m
    obtain ⟨count, each⟩ := length_printMembers (level + 1) members
    simp only [printAt, List.length_cons, List.length_append, List.cons_append]
    refine ⟨by omega, ?_⟩
    intro i member
    rcases List.mem_cons.mp member with rfl | member
    · dsimp only
      omega
    · have := each i member
      omega

theorem value_eq (fuel room : Nat) : ∃ inner, value fuel room = valueWith fuel inner := by
  cases room with
  | zero => exact ⟨none, rfl⟩
  | succ room => exact ⟨some (value fuel room), rfl⟩

theorem takes_null (fuel room level : Nat) : TakesPrinted (value fuel room) level .null := by
  intro w rest white
  obtain ⟨inner, same⟩ := value_eq fuel room
  rw [same]
  exact (reads_peekPastWhite white (unwhite_cons.mpr rfl)).bind
    ((reads_advance _ _).bind ((reads_word "ull".toList rest).bind (reads_pure _ _)))

theorem takes_bool (fuel room level : Nat) (b : Bool) :
    TakesPrinted (value fuel room) level (.bool b) := by
  intro w rest white
  obtain ⟨inner, same⟩ := value_eq fuel room
  rw [same]
  cases b with
  | true =>
    exact (reads_peekPastWhite white (unwhite_cons.mpr rfl)).bind
      ((reads_advance _ _).bind ((reads_word "rue".toList rest).bind (reads_pure _ _)))
  | false =>
    exact (reads_peekPastWhite white (unwhite_cons.mpr rfl)).bind
      ((reads_advance _ _).bind ((reads_word "alse".toList rest).bind (reads_pure _ _)))

theorem takes_string (fuel room level : Nat) (str : String) :
    TakesPrinted (value fuel room) level (.string str) := by
  intro w rest white
  obtain ⟨inner, same⟩ := value_eq fuel room
  rw [same]
  simp only [printAt, printString, List.cons_append, List.append_assoc, List.nil_append]
  exact (reads_peekPastWhite white (unwhite_cons.mpr rfl)).bind
    ((reads_advance _ _).bind ((reads_string str rest).bind (reads_pure _ _)))

theorem takes_array {items : List Json} (textual : ∀ j ∈ items, Textual room j)
    (each : ∀ j ∈ items, TakesPrinted (value fuel room) (level + 1) j)
    (enough : items.length < fuel) :
    TakesPrinted (value fuel (room + 1)) level (.array items) := by
  intro w rest white
  obtain ⟨fuel, rfl⟩ : ∃ n, fuel = n + 1 := ⟨fuel - 1, by omega⟩
  have opens {s : List Char} {js : List Json}
      (taken : Reads (Reader.items (value (fuel + 1) room) (fuel + 1) true) s js (']' :: rest)) :
      Reads (value (fuel + 1) (room + 1)) (w ++ '[' :: s) (.array js) rest :=
    (reads_peekPastWhite white (unwhite_cons.mpr rfl)).bind
      ((reads_advance _ _).bind ((reads_enclosedList allWhite_nil taken).bind (reads_pure _ _)))
  cases items with
  | nil =>
    exact opens (reads_noItems (reads_listEnd allWhite_nil rest))
  | cons j items =>
    have taken := opens (reads_firstPrinted textual each (Nat.lt_of_succ_lt_succ enough)
      (allWhite_newLine level) rest)
    simpa only [printAt, ordered, List.cons_append, List.append_assoc, List.nil_append] using taken

theorem takes_object {members : List (String × Json)}
    (each : ∀ m ∈ members, TakesPrinted (value fuel room) (level + 1) m.2)
    (enough : members.length < fuel) :
    TakesPrinted (value fuel (room + 1)) level (.object members) := by
  intro w rest white
  obtain ⟨fuel, rfl⟩ : ∃ n, fuel = n + 1 := ⟨fuel - 1, by omega⟩
  have opens {s : List Char} {ms : Members Json}
      (taken : Reads (memberValues (value (fuel + 1) room) (fuel + 1)) s ms ('}' :: rest)) :
      Reads (value (fuel + 1) (room + 1)) (w ++ '\x7b' :: s) (.object ms) rest :=
    (reads_peekPastWhite white (unwhite_cons.mpr rfl)).bind
      ((reads_advance _ _).bind ((reads_enclosedObject allWhite_nil taken).bind (reads_pure _ _)))
  cases members with
  | nil =>
    exact opens (reads_noMembers (reads_objectEnd allWhite_nil rest) [])
  | cons m members =>
    obtain ⟨key, j⟩ := m
    have taken := opens (reads_firstPrintedMember each (Nat.lt_of_succ_lt_succ enough)
      (allWhite_newLine level) rest)
    simpa only [printAt, ordered, List.cons_append, List.append_assoc, List.nil_append] using taken

/- By induction on the value. The reader of a list or an object has one level less to go for what
   is inside, and the text is longer than the number of its items. -/
theorem takes_printed {j : Json} (textual : Textual room j)
    (enough : (j.printAt level).length < fuel) : TakesPrinted (value fuel room) level j := by
  induction textual generalizing level with
  | null => exact takes_null _ _ _
  | bool b => exact takes_bool _ _ _ b
  | string str => exact takes_string _ _ _ str
  | @array room items each ih =>
    obtain ⟨count, shorter⟩ := length_printAt_array level items
    refine takes_array each (fun j member => ih j member ?_) (by omega)
    have := shorter j member
    omega
  | @object room members each ih =>
    obtain ⟨count, shorter⟩ := length_printAt_object level members
    refine takes_object (fun m member => ih m member ?_) (by omega)
    have := shorter m member
    omega

/-- A printed value reads back, also with white space behind it. -/
theorem read_printed {j : Json} (textual : Textual deepest j) (white : AllWhite w) :
    read (.ofList (j.printAt 0 ++ w)) = .ok j.ordered := by
  have chars : (String.ofList (j.printAt 0 ++ w)).toList = j.printAt 0 ++ w := String.toList_ofList
  have enough : (j.printAt 0).length < (j.printAt 0 ++ w).length + 1 := by
    rw [List.length_append]
    omega
  obtain ⟨middle, taken⟩ := (takes_printed textual enough).here w ⟨1, 0⟩
  obtain ⟨last, done⟩ := reads_ended white middle
  refine run_eq_ok.mpr ⟨_, _, ?_, done⟩
  rw [chars]
  exact taken

end InfraLint.Json
