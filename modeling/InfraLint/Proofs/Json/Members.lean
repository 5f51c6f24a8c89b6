import InfraLint.Json.Members

/-!
Looking up what has been put into the members of an object. For that the order of the keys plays no
part: a key that is put in stands in front of every later member of the same name. Where the keys
are in order, what is looked up is all there is to know of the members.
-/
namespace InfraLint.Members

variable {α : Type}

theorem get?_nil (key : String) : get? key ([] : Members α) = none := rfl

theorem get?_cons (key k : String) (v : α) (ms : Members α) :
    get? key ((k, v) :: ms) = if key = k then some v else get? key ms := by
  unfold get?
  rw [List.lookup_cons]
  by_cases same : key = k
  · simp [same]
  · simp [same, beq_eq_false_iff_ne.mpr same]

theorem get?_insert (key k : String) (v : α) (ms : Members α) :
    get? key (insert k v ms) = if key = k then some v else get? key ms := by
  induction ms with
  | nil => simp only [insert, get?_cons, get?_nil]
  | cons first ms ih =>
    obtain ⟨l, w⟩ := first
    simp only [insert]
    split
    · rw [get?_cons]
    · rename_i notBefore
      split
      · rename_i same
        subst same
        simp only [get?_cons]
        split <;> rfl
      · rename_i other
        simp only [get?_cons, ih]
        by_cases isKey : key = k
        · subst isKey
          simp [other]
        · simp [isKey]

theorem contains_insert (key k : String) (v : α) (ms : Members α) :
    contains key (insert k v ms) = (decide (key = k) || contains key ms) := by
  simp only [contains, get?_insert]
  by_cases same : key = k <;> simp [same]

/-! Members put in one after the other -/

theorem get?_foldl_of_not_mem {key : String} {ms : List (String × α)}
    (absent : key ∉ ms.map Prod.fst) (given : Members α) :
    get? key (ms.foldl (fun ms (k, v) => insert k v ms) given) = get? key given := by
  induction ms generalizing given with
  | nil => rfl
  | cons first ms ih =>
    obtain ⟨k, v⟩ := first
    simp only [List.map_cons, List.mem_cons, not_or] at absent
    rw [List.foldl_cons, ih absent.2, get?_insert, if_neg absent.1]

theorem get?_ofList_of_not_mem {key : String} {ms : List (String × α)}
    (absent : key ∉ ms.map Prod.fst) : get? key (ofList ms) = none :=
  get?_foldl_of_not_mem absent []

/-- Where every key is given once, each has the value that is given for it. -/
theorem get?_ofList_of_mem {key : String} {v : α} {ms : List (String × α)}
    (distinct : (ms.map Prod.fst).Nodup) (member : (key, v) ∈ ms) :
    get? key (ofList ms) = some v := by
  obtain ⟨earlier, later, rfl⟩ := List.append_of_mem member
  rw [List.map_append, List.map_cons, List.nodup_append] at distinct
  have absent : key ∉ later.map Prod.fst := (List.nodup_cons.mp distinct.2.1).1
  rw [ofList, List.foldl_append, List.foldl_cons, get?_foldl_of_not_mem absent, get?_insert,
    if_pos rfl]

theorem contains_ofList_iff {key : String} {ms : List (String × α)}
    (distinct : (ms.map Prod.fst).Nodup) :
    contains key (ofList ms) = true ↔ key ∈ ms.map Prod.fst := by
  rw [contains]
  constructor
  · intro given
    apply Decidable.byContradiction
    intro absent
    simp [get?_ofList_of_not_mem absent] at given
  · intro member
    obtain ⟨⟨k, v⟩, pair, rfl⟩ := List.mem_map.mp member
    simp [get?_ofList_of_mem distinct pair]

/-! Keys in order -/

/-- The keys come in order, each of them once. -/
def Increasing (ms : Members α) : Prop := ms.Pairwise fun m n => m.1 < n.1

instance (ms : Members α) : Decidable (Increasing ms) :=
  inferInstanceAs (Decidable (ms.Pairwise fun m n => m.1 < n.1))

theorem mem_insert {key : String} {value : α} {ms : Members α} {pair : String × α}
    (member : pair ∈ insert key value ms) :
    pair = (key, value) ∨ pair ∈ ms := by
  induction ms with
  | nil => exact Or.inl (List.mem_singleton.mp member)
  | cons first ms ih =>
    obtain ⟨k, v⟩ := first
    simp only [insert] at member
    split at member
    · exact List.mem_cons.mp member
    · split at member
      · exact (List.mem_cons.mp member).imp id (List.mem_cons_of_mem _)
      · rcases List.mem_cons.mp member with rfl | later
        · exact Or.inr List.mem_cons_self
        · exact (ih later).imp id (List.mem_cons_of_mem _)

/-- Putting a member in its place keeps the keys in order. -/
theorem insert_increasing {key : String} {value : α} {ms : Members α}
    (increasing : Increasing ms) : Increasing (insert key value ms) := by
  induction ms with
  | nil => exact List.pairwise_singleton _ _
  | cons first ms ih =>
    obtain ⟨k, v⟩ := first
    obtain ⟨above, rest⟩ := List.pairwise_cons.mp increasing
    simp only [insert]
    split
    · rename_i before
      refine List.pairwise_cons.mpr ⟨fun m member => ?_, increasing⟩
      rcases List.mem_cons.mp member with rfl | later
      · exact before
      · exact String.lt_trans before (above m later)
    · rename_i notBefore
      split
      · rename_i same
        subst same
        exact List.pairwise_cons.mpr ⟨above, rest⟩
      · rename_i other
        refine List.pairwise_cons.mpr ⟨fun m member => ?_, ih rest⟩
        rcases mem_insert member with rfl | later
        · exact Std.lt_of_le_of_ne notBefore (Ne.symm other)
        · exact above m later

/-- Members of different names are put in in either order. -/
theorem insert_comm {k l : String} (other : k ≠ l) (v w : α) (ms : Members α) :
    insert k v (insert l w ms) = insert l w (insert k v ms) := by
  induction ms with
  | nil => grind [insert]
  | cons first ms ih =>
    obtain ⟨h, x⟩ := first
    grind [insert]

theorem contains_iff_mem {key : String} {ms : Members α} :
    contains key ms = true ↔ key ∈ ms.map Prod.fst := by
  simp [contains, get?, List.lookup_isSome_iff]

theorem mem_of_get?_eq_some {key : String} {v : α} {ms : Members α} (found : get? key ms = some v) :
    (key, v) ∈ ms := by
  obtain ⟨u, w, rfl, _⟩ := List.lookup_eq_some_iff.mp found
  simp

theorem get?_eq_none_of_lt {key : String} {ms : Members α} (above : ∀ m ∈ ms, key < m.1) :
    get? key ms = none := by
  have absent : ¬ contains key ms = true := by
    rw [contains_iff_mem]
    intro member
    obtain ⟨m, inside, same⟩ := List.mem_map.mp member
    exact String.lt_irrefl key (same ▸ above m inside)
  simpa [contains] using absent

theorem eq_of_get?_eq {ms ns : Members α} (increasing : Increasing ms) (increasing' : Increasing ns)
    (agree : ∀ key, get? key ms = get? key ns) : ms = ns := by
  induction ms generalizing ns with
  | nil =>
    cases ns with
    | nil => rfl
    | cons first ns =>
      have found := agree first.1
      rw [get?_nil, get?_cons, if_pos rfl] at found
      cases found
  | cons first ms ih =>
    obtain ⟨k, v⟩ := first
    obtain ⟨above, rest⟩ := List.pairwise_cons.mp increasing
    have found := agree k
    rw [get?_cons, if_pos rfl] at found
    cases ns with
    | nil => cases found
    | cons first' ns =>
      obtain ⟨l, w⟩ := first'
      obtain ⟨above', rest'⟩ := List.pairwise_cons.mp increasing'
      have same : k = l := by
        apply Decidable.byContradiction
        intro other
        have found' := agree l
        rw [get?_cons, if_neg other] at found
        rw [get?_cons, if_neg (Ne.symm other), get?_cons, if_pos rfl] at found'
        have below := above' _ (mem_of_get?_eq_some found.symm)
        have below' := above _ (mem_of_get?_eq_some found')
        exact String.lt_irrefl k (String.lt_trans below' below)
      subst same
      rw [get?_cons, if_pos rfl] at found
      obtain rfl := Option.some.inj found
      rw [ih rest rest' fun key => ?_]
      by_cases isFirst : key = k
      · subst isFirst
        rw [get?_eq_none_of_lt above, get?_eq_none_of_lt above']
      · simpa only [get?_cons, if_neg isFirst] using agree key

theorem nodup_keys {ms : Members α} (increasing : Increasing ms) : (ms.map Prod.fst).Nodup := by
  refine List.pairwise_map.mpr (increasing.imp ?_)
  intro m n before same
  exact String.lt_irrefl _ (same ▸ before)

end InfraLint.Members
