import InfraLint.Json.Read

/-!
Readers step by step. `Reads` says what a reader takes from the front of a text and what it makes
of it, wherever in a document the text stands. `Yields` says what all results of a reader have in
common. Both follow the way in which readers are put together.
-/
namespace InfraLint.Json.Reader

variable {α β : Type} {r : Reader α} {f : α → Reader β} {P : β → Prop} {a : α} {b : β}
  {c c' : Cursor} {s t u w : List Char} {x : Char}

theorem bind_of_ok (done : r c = .ok (a, c')) : (r >>= f) c = f a c' := by
  simp only [bind, StateT.bind, done, Except.bind]

theorem bind_eq_ok : (r >>= f) c = .ok (b, c') ↔
    ∃ a middle, r c = .ok (a, middle) ∧ f a middle = .ok (b, c') := by
  constructor
  · intro done
    cases first : r c with
    | error e => simp [bind, StateT.bind, first, Except.bind] at done
    | ok pair => exact ⟨pair.1, pair.2, rfl, by rwa [bind_of_ok first] at done⟩
  · intro h
    obtain ⟨a, middle, first, second⟩ := h
    rwa [bind_of_ok first]

theorem run_eq_ok {reader : Nat → Reader α} {text : String} : run reader text = .ok a ↔
    ∃ middle last, reader (text.toList.length + 1) (Cursor.start text.toList) = .ok (a, middle) ∧
      ended middle = .ok ((), last) := by
  have whole (last : Cursor) : (do let a ← reader (text.toList.length + 1); ended; return a)
      (Cursor.start text.toList) = .ok (a, last) ↔ ∃ middle,
        reader (text.toList.length + 1) (Cursor.start text.toList) = .ok (a, middle) ∧
          ended middle = .ok ((), last) := by
    simp only [bind_eq_ok]
    constructor
    · rintro ⟨_, middle, taken, _, _, done, same⟩
      cases same
      exact ⟨middle, taken, done⟩
    · rintro ⟨middle, taken, done⟩
      exact ⟨a, middle, taken, (), last, done, rfl⟩
  rw [exists_comm]
  simp only [← whole]
  unfold run
  dsimp only
  split
  · rename_i done
    simp only [done, Except.ok.injEq, Prod.mk.injEq, exists_and_left, exists_eq', and_true]
  · rename_i failed
    simp only [failed, reduceCtorEq, exists_false]
  · rename_i failed
    simp only [failed, reduceCtorEq, exists_false]

/-! What all results have in common -/

def Yields (P : β → Prop) (r : Reader β) : Prop := ∀ c b c', r c = .ok (b, c') → P b

theorem yields_pure (holds : P b) : Yields P (pure b) := by
  intro c b' c' done
  cases done
  exact holds

theorem yields_fail (fault : Fault) : Yields P (fail fault) := by
  intro c b c' done
  cases done

theorem yields_failAhead (fault : Fault) : Yields P (failAhead fault) := by
  intro c b c' done
  cases done

theorem yields_bind (each : ∀ a, Yields P (f a)) : Yields P (r >>= f) := by
  intro c b c' done
  obtain ⟨a, middle, _, second⟩ := bind_eq_ok.mp done
  exact each a middle b c' second

theorem yields_bind_of {Q : α → Prop} (first : Yields Q r) (each : ∀ a, Q a → Yields P (f a)) :
    Yields P (r >>= f) := by
  intro c b c' done
  obtain ⟨a, middle, taken, second⟩ := bind_eq_ok.mp done
  exact each a (first c a middle taken) middle b c' second

theorem yields_enclosed {content : Reader β} {ending : Char} (holds : Yields P content) :
    Yields P (enclosed content ending) := by
  intro c b c' done
  simp only [enclosed] at done
  cases taken : content c with
  | error failure => cases failure <;> simp [taken] at done
  | ok pair =>
    obtain ⟨b', middle⟩ := pair
    simp only [taken] at done
    split at done
    · cases done
      exact holds c _ middle taken
    · cases done

/-- What every member keeps is kept by all of them. -/
theorem yields_members {member : String → β → Reader β}
    (step : ∀ key state, P state → Yields P (member key state)) {fuel : Nat} {first : Bool}
    {state : β} (holds : P state) : Yields P (members member fuel first state) := by
  induction fuel generalizing first state with
  | zero => exact yields_pure holds
  | succ fuel ih =>
    refine yields_bind fun more => ?_
    cases more with
    | false => exact yields_pure holds
    | true =>
      refine yields_bind fun key => ?_
      exact yields_bind_of (step key state holds) fun _ holds' => ih holds'

/-! What is taken from a text -/

def Reads (r : Reader α) (s : List Char) (a : α) (rest : List Char) : Prop :=
  ∀ place, ∃ place', r ⟨place, s⟩ = .ok (a, ⟨place', rest⟩)

theorem reads_pure (a : α) (s : List Char) : Reads (pure a) s a s :=
  fun place => ⟨place, rfl⟩

theorem Reads.bind (first : Reads r s a t) (second : Reads (f a) t b u) :
    Reads (r >>= f) s b u := by
  intro place
  obtain ⟨middle, taken⟩ := first place
  obtain ⟨last, behind⟩ := second middle
  exact ⟨last, by rw [bind_of_ok taken, behind]⟩

theorem reads_peek (s : List Char) : Reads peek s s.head? s :=
  fun place => ⟨place, rfl⟩

theorem reads_advance (x : Char) (s : List Char) : Reads advance (x :: s) () s :=
  fun place => ⟨place.into x x.utf8Size, rfl⟩

def AllWhite (w : List Char) : Prop := ∀ x ∈ w, Cursor.isWhite x = true

/-- The text does not go on with white space. -/
def Unwhite (s : List Char) : Prop := ∀ x, s.head? = some x → Cursor.isWhite x = false

theorem unwhite_cons : Unwhite (x :: s) ↔ Cursor.isWhite x = false := by
  simp [Unwhite]

theorem reads_skipWhite (white : AllWhite w) (stop : Unwhite s) :
    Reads skipWhite (w ++ s) () s := by
  intro place
  induction w generalizing place with
  | nil =>
    cases s with
    | nil => exact ⟨place, rfl⟩
    | cons x s =>
      refine ⟨place, ?_⟩
      simp [skipWhite, Cursor.skipWhite, Cursor.skipFrom, unwhite_cons.mp stop]
  | cons y w ih =>
    have first : Cursor.isWhite y = true := white y (by simp)
    have rest : AllWhite w := fun x member => white x (List.mem_cons_of_mem y member)
    obtain ⟨last, taken⟩ := ih rest (place.into y 1)
    refine ⟨last, ?_⟩
    simpa [skipWhite, Cursor.skipWhite, Cursor.skipFrom, first] using taken

theorem reads_peekPastWhite (white : AllWhite w) (stop : Unwhite s) :
    Reads peekPastWhite (w ++ s) s.head? s :=
  (reads_skipWhite white stop).bind (reads_peek s)

theorem allWhite_nil : AllWhite [] := by simp [AllWhite]

theorem allWhite_append {v : List Char} (white : AllWhite w) (white' : AllWhite v) :
    AllWhite (w ++ v) := by
  intro x member
  rcases List.mem_append.mp member with front | back
  · exact white x front
  · exact white' x back

theorem reads_word (w s : List Char) : Reads (word w) (w ++ s) () s := by
  induction w with
  | nil => exact reads_pure () s
  | cons x w ih =>
    refine (reads_peek _).bind ?_
    have step : Reads (do advance; word w) (x :: w ++ s) () s := (reads_advance x _).bind ih
    simpa using step

/-! Lists and objects -/

section Enclosed

variable {σ : Type} {inner content : Reader α} {member : String → σ → Reader σ} {as : List α}
  {state state' out : σ} {first : Bool} {fuel : Nat} {key : String} {v rest : List Char}

theorem reads_listEnd (white : AllWhite w) (s : List Char) :
    Reads (anotherItem first) (w ++ ']' :: s) false (']' :: s) :=
  (reads_peekPastWhite white (unwhite_cons.mpr rfl)).bind (reads_pure _ _)

theorem reads_firstItem (white : AllWhite w) (stop : Cursor.isWhite x = false) (more : x ≠ ']')
    (s : List Char) : Reads (anotherItem true) (w ++ x :: s) true (x :: s) := by
  refine (reads_peekPastWhite white (unwhite_cons.mpr stop)).bind ?_
  by_cases comma : x = ','
  · simpa [comma] using reads_pure true (x :: s)
  · simpa [more, comma] using reads_pure true (x :: s)

theorem reads_nextItem (white' : AllWhite v) (white : AllWhite w)
    (stop : Cursor.isWhite x = false) (more : x ≠ ']') (s : List Char) :
    Reads (anotherItem false) (v ++ ',' :: (w ++ x :: s)) true (x :: s) := by
  refine (reads_peekPastWhite white' (unwhite_cons.mpr rfl)).bind ((reads_advance _ _).bind ?_)
  refine (reads_peekPastWhite white (unwhite_cons.mpr stop)).bind ?_
  simpa [more] using reads_pure true (x :: s)

theorem reads_noItems (done : Reads (anotherItem first) s false t) :
    Reads (items inner (fuel + 1) first) s [] t :=
  done.bind (reads_pure _ _)

theorem reads_moreItems (more : Reads (anotherItem first) s true t) (item : Reads inner t a u)
    (behind : Reads (items inner fuel false) u as rest) :
    Reads (items inner (fuel + 1) first) s (a :: as) rest :=
  more.bind (item.bind (behind.bind (reads_pure _ _)))

theorem reads_enclosedList (white : AllWhite w) (taken : Reads content s a (w ++ ']' :: rest)) :
    Reads (enclosed content ']') s a rest := by
  intro place
  obtain ⟨middle, done⟩ := taken place
  have ends : Reads endList (w ++ ']' :: rest) () rest :=
    (reads_peekPastWhite white (unwhite_cons.mpr rfl)).bind (reads_advance _ _)
  obtain ⟨last, behind⟩ := ends middle
  exact ⟨last, by simp [enclosed, done, behind]⟩

theorem reads_objectEnd (white : AllWhite w) (s : List Char) :
    Reads (anotherMember first) (w ++ '}' :: s) false ('}' :: s) :=
  (reads_peekPastWhite white (unwhite_cons.mpr rfl)).bind (reads_pure _ _)

theorem reads_firstMember (white : AllWhite w) (s : List Char) :
    Reads (anotherMember true) (w ++ '"' :: s) true s :=
  (reads_peekPastWhite white (unwhite_cons.mpr rfl)).bind
    ((reads_advance _ _).bind (reads_pure _ _))

theorem reads_nextMember (white' : AllWhite v) (white : AllWhite w) (s : List Char) :
    Reads (anotherMember false) (v ++ ',' :: (w ++ '"' :: s)) true s := by
  refine (reads_peekPastWhite white' (unwhite_cons.mpr rfl)).bind ((reads_advance _ _).bind ?_)
  exact (reads_peekPastWhite white (unwhite_cons.mpr rfl)).bind
    ((reads_advance _ _).bind (reads_pure _ _))

theorem reads_noMembers (done : Reads (anotherMember first) s false t) (state : σ) :
    Reads (members member (fuel + 1) first state) s state t :=
  done.bind (reads_pure _ _)

theorem reads_moreMembers (more : Reads (anotherMember first) s true t)
    (name : Reads Reader.string t key u) (taken : Reads (member key state) u state' v)
    (behind : Reads (members member fuel false state') v out rest) :
    Reads (members member (fuel + 1) first state) s out rest :=
  more.bind (name.bind (taken.bind behind))

theorem reads_enclosedObject (white : AllWhite w) (taken : Reads content s a (w ++ '}' :: rest)) :
    Reads (enclosed content '}') s a rest := by
  intro place
  obtain ⟨middle, done⟩ := taken place
  have ends : Reads endObject (w ++ '}' :: rest) () rest :=
    (reads_peekPastWhite white (unwhite_cons.mpr rfl)).bind (reads_advance _ _)
  obtain ⟨last, behind⟩ := ends middle
  exact ⟨last, by simp [enclosed, done, behind]⟩

theorem reads_colon (white : AllWhite w) (s : List Char) : Reads colon (w ++ ':' :: s) () s :=
  (reads_peekPastWhite white (unwhite_cons.mpr rfl)).bind (reads_advance _ _)

end Enclosed

theorem reads_ended (white : AllWhite w) : Reads ended w () [] := by
  have past := reads_peekPastWhite (s := []) white (by simp [Unwhite])
  rw [List.append_nil] at past
  exact past.bind (reads_pure _ _)

end InfraLint.Json.Reader
