import InfraLint.Proofs.Json.Kinds

/-!
What the members of an object come to, taken one after the other. Members whose steps commute may
change places, and a member that leaves every state as it is may be left out.
-/
namespace InfraLint.Json

variable {σ : Type} {step : String → Tree → σ → Option σ} {state state' : σ} {key : String}
  {name : List Piece} {t t' : Tree} {members members' before after : List (List Piece × Tree)}

def Commutes (step : String → Tree → σ → Option σ) : Prop :=
  ∀ key key' t t' state, key ≠ key' →
    (step key t state).bind (step key' t') = (step key' t' state).bind (step key t)

def Apart (m n : List Piece × Tree) : Prop := string? m.1 ≠ none → string? m.1 ≠ string? n.1

instance : DecidableRel Apart := fun _ _ => inferInstanceAs (Decidable (_ → _))

theorem Apart.symm {m n : List Piece × Tree} (apart : Apart m n) : Apart n m := by
  intro named same
  exact apart (same ▸ named) same.symm

def Unnamed (key : String) (members : List (List Piece × Tree)) : Prop :=
  ∀ m ∈ members, string? m.1 ≠ some key

instance (key : String) (members : List (List Piece × Tree)) : Decidable (Unnamed key members) :=
  inferInstanceAs (Decidable (∀ m ∈ members, string? m.1 ≠ some key))

theorem foldMembers?_append (step : String → Tree → σ → Option σ)
    (members members' : List (List Piece × Tree)) (state : σ) :
    foldMembers? step (members ++ members') state =
      (foldMembers? step members state).bind (foldMembers? step members') :=
  List.foldlM_append

theorem foldMembers?_cons_eq (step : String → Tree → σ → Option σ) (m : List Piece × Tree)
    (members : List (List Piece × Tree)) : foldMembers? step (m :: members) = fun state =>
      (string? m.1).bind fun key => (step key m.2 state).bind (foldMembers? step members) :=
  funext (foldMembers?_cons step m members)

theorem foldMembers?_swap (commutes : Commutes step) {m n : List Piece × Tree} (apart : Apart m n)
    (members : List (List Piece × Tree)) (state : σ) :
    foldMembers? step (m :: n :: members) state = foldMembers? step (n :: m :: members) state := by
  simp only [foldMembers?_cons_eq]
  cases first : string? m.1 with
  | none => simp
  | some key =>
    cases second : string? n.1 with
    | none => simp
    | some key' =>
      have other : key ≠ key' := by
        rintro rfl
        exact apart (by simp [first]) (first.trans second.symm)
      have exchanged := commutes key key' m.2 n.2 state other
      simp only [Option.bind_some]
      rw [← Option.bind_assoc, exchanged, Option.bind_assoc]

theorem foldMembers?_perm (commutes : Commutes step) (apart : members.Pairwise Apart)
    (perm : members.Perm members') (state : σ) :
    foldMembers? step members state = foldMembers? step members' state := by
  induction perm generalizing state with
  | nil => rfl
  | cons m _ ih =>
    have others := ih (List.pairwise_cons.mp apart).2
    simp only [foldMembers?_cons]
    congr 1
    funext key
    congr 1
    funext state'
    exact others state'
  | swap m n members =>
    exact foldMembers?_swap commutes ((List.pairwise_cons.mp apart).1 m List.mem_cons_self) _ _
  | trans first _ ih ih' =>
    have apart' := (first.pairwise_iff Apart.symm).mp apart
    exact (ih apart state).trans (ih' apart' state)

/-- A member may be taken last if none of those behind it has its name. -/
theorem foldMembers?_last (before : List (List Piece × Tree)) (commutes : Commutes step)
    (named : string? name = some key) (t : Tree) (others : Unnamed key after) (state : σ) :
    foldMembers? step (before ++ (name, t) :: after) state =
      (foldMembers? step (before ++ after) state).bind (step key t) := by
  have last : foldMembers? step ((name, t) :: after) = fun state =>
      (foldMembers? step after state).bind (step key t) := by
    funext state
    induction after generalizing state with
    | nil => simp [foldMembers?, named]
    | cons m members ih =>
      obtain ⟨other, others⟩ := List.forall_mem_cons.mp others
      have apart : Apart (name, t) m := fun _ same => other (same.symm.trans named)
      rw [foldMembers?_swap commutes apart, foldMembers?_cons, foldMembers?_cons]
      simp only [Option.bind_assoc]
      congr 1
      funext key'
      congr 1
      funext state'
      exact ih others state'
  simp only [foldMembers?_append, Option.bind_assoc, last]

theorem foldMembers?_passed (before after : List (List Piece × Tree))
    (named : string? name = some key) (passes : step key t = some) (state : σ) :
    foldMembers? step (before ++ (name, t) :: after) state =
      foldMembers? step (before ++ after) state := by
  simp only [foldMembers?_append, foldMembers?_cons_eq, named, passes, Option.bind_some]

theorem foldMembers?_replaced (before after : List (List Piece × Tree))
    (same : ∀ key state, string? name = some key → step key t state = step key t' state)
    (state : σ) : foldMembers? step (before ++ (name, t) :: after) state =
      foldMembers? step (before ++ (name, t') :: after) state := by
  simp only [foldMembers?_append, foldMembers?_cons_eq]
  cases named : string? name with
  | none => rfl
  | some key => simp only [Option.bind_some, same key _ named]

theorem foldMembers?_keeps {P : σ → Prop} (folded : foldMembers? step members state = some state')
    (holds : P state) (keeps : ∀ m ∈ members, ∀ key, string? m.1 = some key → ∀ state state',
      step key m.2 state = some state' → P state → P state') : P state' := by
  induction members generalizing state with
  | nil =>
    cases folded
    exact holds
  | cons m members ih =>
    obtain ⟨first, keeps⟩ := List.forall_mem_cons.mp keeps
    simp only [foldMembers?_cons, Option.bind_eq_some_iff] at folded
    obtain ⟨key, named, middle, taken, folded⟩ := folded
    exact ih folded (first key named state middle taken holds) keeps

theorem foldMembers?_refused {m : List Piece × Tree} (member : m ∈ members)
    (refused : ∀ key state, string? m.1 = some key → step key m.2 state = none) (state : σ) :
    foldMembers? step members state = none := by
  obtain ⟨before, after, rfl⟩ := List.append_of_mem member
  have here (state : σ) : foldMembers? step (m :: after) state = none := by
    rw [foldMembers?_cons]
    cases named : string? m.1 with
    | none => rfl
    | some key => simp [refused key state named]
  simp [foldMembers?_append, here]

/-! Fields -/

structure Slot (σ α : Type) where
  get : σ → Option α
  set : Option α → σ → σ
  get_set : ∀ o state, get (set o state) = o

structure Slot.Apart {α β : Type} (slot : Slot σ α) (slot' : Slot σ β) : Prop where
  keeps : ∀ o state, slot.get (slot'.set o state) = slot.get state
  keeps' : ∀ o state, slot'.get (slot.set o state) = slot'.get state
  exchanged : ∀ o o' state, slot.set o (slot'.set o' state) = slot'.set o' (slot.set o state)

variable {α β : Type} {slot : Slot σ α} {slot' : Slot σ β}

def Slot.take? (slot : Slot σ α) (made : Option α) (state : σ) : Option σ :=
  (field? (slot.get state) made).map (slot.set · state)

theorem Slot.take?_eq_some {made : Option α} (taken : slot.take? made state = some state') :
    slot.get state = none ∧ made.isSome ∧ state' = slot.set made state := by
  obtain ⟨o, field, rfl⟩ := Option.map_eq_some_iff.mp taken
  obtain ⟨absent, isMade, rfl⟩ := field?_eq_some.mp field
  exact ⟨absent, isMade, rfl⟩

/-- Two fields are read in either order. -/
theorem Slot.Apart.take?_comm (apart : slot.Apart slot') (made : Option α) (made' : Option β)
    (state : σ) : (slot.take? made state).bind (slot'.take? made') =
      (slot'.take? made' state).bind (slot.take? made) := by
  unfold take? field?
  cases known : slot.get state <;> cases known' : slot'.get state <;> cases made <;>
    cases made' <;> simp [known, known', apart.keeps, apart.keeps', apart.exchanged]

/-- The steps of a record with named fields. A field must not be given twice, and members of other
names are passed over. -/
structure Records (names : List String) (given : String → σ → Prop)
    (step : String → Tree → σ → Option σ) : Prop where
  takes : ∀ {key t state state'}, key ∈ names → step key t state = some state' →
    ¬ given key state ∧ given key state'
  keeps : ∀ {key other t state state'}, other ≠ key → step key t state = some state' →
    (given other state' ↔ given other state)
  passes : ∀ {key}, key ∉ names → ∀ t, step key t = some

variable {names : List String} {given : String → σ → Prop}

theorem Records.commutes (records : Records names given step)
    (exchanged : ∀ key ∈ names, ∀ key' ∈ names, key ≠ key' → ∀ t t' state,
      (step key t state).bind (step key' t') = (step key' t' state).bind (step key t)) :
    Commutes step := by
  intro key key' t t' state other
  by_cases field : key ∈ names
  · by_cases field' : key' ∈ names
    · exact exchanged key field key' field' other t t' state
    · simp [records.passes field']
  · simp [records.passes field]

theorem Records.absent (records : Records names given step) (others : Unnamed key members)
    (folded : foldMembers? step members state = some state') (absent : ¬ given key state) :
    ¬ given key state' := by
  refine foldMembers?_keeps (P := fun state => ¬ given key state) folded absent ?_
  intro m member key' named state state' taken absent
  have other : key ≠ key' := by
    rintro rfl
    exact others m member named
  exact (not_congr (records.keeps other taken)).mpr absent

theorem Records.lasts (records : Records names given step) {state state' : σ} {key' : String}
    (taken : step key' t state = some state') (isGiven : given key state) : given key state' := by
  by_cases other : key = key'
  · subst other
    by_cases field : key ∈ names
    · exact (records.takes field taken).2
    · cases (congrFun (records.passes field t) state).symm.trans taken
      exact isGiven
  · exact (records.keeps other taken).mpr isGiven

theorem Records.repeated (records : Records names given step) (field : key ∈ names)
    {between : List (List Piece × Tree)} {m n : List Piece × Tree}
    (first : string? m.1 = some key) (second : string? n.1 = some key) (state : σ) :
    foldMembers? step (before ++ m :: (between ++ n :: after)) state = none := by
  refine Option.eq_none_iff_forall_ne_some.mpr fun last folded => ?_
  simp only [foldMembers?_append, foldMembers?_cons_eq, first, second, Option.bind_eq_some_iff,
    Option.some.injEq, exists_eq_left'] at folded
  obtain ⟨start, _, middle, taken, stop, folded, _, taken', _⟩ := folded
  have isGiven := foldMembers?_keeps (P := given key) folded (records.takes field taken).2
    fun _ _ _ _ _ _ taken isGiven => records.lasts taken isGiven
  exact (records.takes field taken').1 isGiven

end InfraLint.Json
