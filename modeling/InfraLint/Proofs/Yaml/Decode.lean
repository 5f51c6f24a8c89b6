import InfraLint.Proofs.Yaml.Nodes
import InfraLint.Proofs.Yaml.Number
import InfraLint.Yaml.Typed

/-!
Values of a written document. A decoder that suits a layout gets back what was written.
-/
namespace InfraLint.Yaml

theorem Shows.resolve {node : Node} {layout : Layout} (shows : Shows node layout)
    (anchors : Anchors) : node.resolve anchors = node := by
  cases shows <;> rfl

namespace Decoder

variable {α σ : Type} {item : Decoder α} {layout : Layout} {a : α}

/-- Wherever a node shows the layout, the decoder gets this value. -/
def Reads (decoder : Decoder α) (layout : Layout) (a : α) : Prop :=
  ∀ anchors path node, Shows node layout → decoder anchors path node = .ok a

theorem reads_string (s : String) : Reads string (.text s) s := by
  rintro anchors path node ⟨⟩
  rfl

theorem reads_boolean (b : Bool) : Reads boolean (.word (toString b)) b := by
  rintro anchors path node ⟨⟩
  simp [boolean, isReadByForm, bool?_toString]

theorem reads_integer {n : Int} (fits : fitsSigned 64 n = true) :
    Reads integer (.word (toString n)) n := by
  rintro anchors path node ⟨⟩
  have read : (integer? (toString n).toList).filter (fitsSigned 64) = some n := by
    rw [integer?_toString, Option.filter_some, fits, if_pos rfl]
  simp only [integer, isReadByForm, decide_true, Bool.true_or, if_true, read]

theorem itemsFrom_shows {nodes : List Node} {items : List String} (anchors : Anchors)
    (path : List Step) (shown : ShowsItems nodes items) (i : Nat) :
    itemsFrom string anchors path i nodes = .ok items := by
  induction shown generalizing i with
  | nil => rfl
  | cons mark item shown ih =>
    rw [itemsFrom, ih]
    rfl

theorem reads_list (items : List String) : Reads (list string) (.list items) items := by
  intro anchors path node shows
  cases shows with
  | list mark shown => exact itemsFrom_shows anchors path shown 0

/-! Records -/

variable {fields : Fields σ}

def Sets (fields : Fields σ) (key : String) (layout : Layout) (set : σ → σ) : Prop :=
  ∃ field, fields key = some field ∧ Reads field layout set

theorem sets_into {key : String} {set : α → σ → σ} (isField : fields key = into item set)
    (reads : Reads item layout a) : Sets fields key layout (set a) := by
  refine ⟨_, isField, fun anchors path node shows => ?_⟩
  rw [reads anchors path node shows]
  rfl

inductive Builds (fields : Fields σ) : List (String × Layout) → σ → σ → Prop where
  | nil (state : σ) : Builds fields [] state state
  | cons {key : String} {layout : Layout} {set : σ → σ} {members : List (String × Layout)}
      {state result : σ} (sets : Sets fields key layout set)
      (builds : Builds fields members (set state) result) :
      Builds fields ((key, layout) :: members) state result

theorem membersFrom_shows {members : List (String × Layout)} {state result : σ}
    {nodes : List (Node × Node)} {seen : List String} {mark : Mark} (anchors : Anchors)
    (path : List Step) (builds : Builds fields members state result)
    (shown : ShowsMembers nodes members)
    (nodup : (members.map Prod.fst).Nodup) (fresh : ∀ key ∈ seen, key ∉ members.map Prod.fst) :
    membersFrom fields anchors path mark seen state nodes = .ok result := by
  induction builds generalizing nodes seen with
  | nil state =>
    cases shown
    rfl
  | @cons key layout set members state result sets builds ih =>
    obtain ⟨field, isField, reads⟩ := sets
    cases shown with
    | @cons mark' _ node _ nodes _ first others =>
    obtain ⟨noLater, nodupLater⟩ := List.nodup_cons.mp nodup
    have unseen : seen.contains key = false := by
      rw [← Bool.not_eq_true, List.contains_iff_mem]
      exact fun member => fresh key member List.mem_cons_self
    have value : field anchors (path ++ [.key key]) (node.resolve anchors) = .ok set := by
      rw [first.resolve]
      exact reads anchors _ node first
    -- what is still to come is neither among the keys seen before nor this key again
    have freshLater : ∀ other ∈ key :: seen, other ∉ members.map Prod.fst :=
      List.forall_mem_cons.mpr ⟨noLater, fun other member later =>
        fresh other member (List.mem_cons_of_mem key later)⟩
    have step : membersFrom fields anchors path mark seen state
        ((.scalar mark' {} .plain key, node) :: nodes) =
          (field anchors (path ++ [.key key]) (node.resolve anchors)).bind fun set =>
            membersFrom fields anchors path mark (key :: seen) (set state) nodes := by
      rw [membersFrom]
      simp only [Node.resolve, text, Except.bind, bind, isField, unseen]
      rfl
    rw [step, value]
    exact ih others nodupLater freshLater

theorem reads_record {name : String} {members : List (String × Layout)} {default result : σ}
    (builds : Builds fields members default result) (nodup : (members.map Prod.fst).Nodup) :
    Reads (record name default fields) (.record members) result := by
  intro anchors path node shows
  cases shows with
  | record mark shown => exact membersFrom_shows anchors path builds shown nodup (by simp)

/-! What all values that are read have in common -/

/-- Whatever the decoder gets, it is so. -/
def Yields (decoder : Decoder α) (p : α → Prop) : Prop :=
  ∀ anchors path node a, decoder anchors path node = .ok a → p a

theorem yields_integer : Yields integer (fitsSigned 64 · = true) := by
  intro anchors path node n read
  cases node with
  | scalar mark p style s =>
    simp only [integer] at read
    split at read
    · rename_i i given
      obtain rfl := Except.ok.inj read
      split at given
      · exact (Option.filter_eq_some_iff.mp given).2
      · simp at given
    · simp [refuse] at read
  | sequence mark p items => simp [integer, refuse] at read
  | mapping mark p members => simp [integer, refuse] at read
  | reference mark anchor => simp [integer, refuse] at read

def Keeps (fields : Fields σ) (p : σ → Prop) : Prop :=
  ∀ key field, fields key = some field → Yields field fun set => ∀ state, p state → p (set state)

theorem keeps_into {set : α → σ → σ} {p : σ → Prop} {q : α → Prop} {field : Decoder (σ → σ)}
    (isField : into item set = some field) (yields : Yields item q)
    (keeps : ∀ a state, q a → p state → p (set a state)) :
    Yields field fun set => ∀ state, p state → p (set state) := by
  obtain rfl := Option.some.inj isField
  intro anchors path node change read state holds
  simp only at read
  cases got : item anchors path node with
  | error fault => simp [got, Except.map] at read
  | ok a =>
    rw [got] at read
    obtain rfl := Except.ok.inj read
    exact keeps a state (yields anchors path node a got) holds

theorem keeps_other {set : α → σ → σ} {p : σ → Prop} {field : Decoder (σ → σ)}
    (isField : into item set = some field) (keeps : ∀ a state, p state → p (set a state)) :
    Yields field fun set => ∀ state, p state → p (set state) := by
  have anything : Yields item fun _ => True := fun _ _ _ _ _ => trivial
  exact keeps_into isField anything fun a state _ holds => keeps a state holds

theorem membersFrom_keeps {p : σ → Prop} (keeps : Keeps fields p) {anchors : Anchors}
    {path : List Step} {mark : Mark} {seen : List String} {state result : σ}
    {nodes : List (Node × Node)} (holds : p state)
    (read : membersFrom fields anchors path mark seen state nodes = .ok result) : p result := by
  induction nodes generalizing seen state with
  | nil =>
    obtain rfl := Except.ok.inj read
    exact holds
  | cons node nodes ih =>
    obtain ⟨k, v⟩ := node
    rw [membersFrom] at read
    cases isKey : text "field identifier" anchors path (k.resolve anchors) with
    | error fault => simp [isKey, bind, Except.bind] at read
    | ok key =>
      simp only [isKey, bind, Except.bind] at read
      cases isField : fields key with
      | none =>
        simp only [isField] at read
        exact ih holds read
      | some field =>
        simp only [isField] at read
        split at read
        · simp at read
        · cases got : field anchors (path ++ [stepOf k]) (v.resolve anchors) with
          | error fault => simp [got] at read
          | ok set =>
            simp only [got] at read
            exact ih (keeps key field isField anchors _ _ set got state holds) read

theorem yields_record {name : String} {default : σ} {p : σ → Prop} (keeps : Keeps fields p)
    (holds : p default) : Yields (record name default fields) p := by
  intro anchors path node result read
  unfold record at read
  split at read
  · exact membersFrom_keeps keeps holds read
  · split at read
    · obtain rfl := Except.ok.inj read
      exact holds
    · simp [refuse] at read

end Decoder

/-! Whole texts -/

/-- A decoder that suits the members of a document reads the document. -/
theorem read_writeDocument {α : Type} {decoder : Decoder α} {members : List (String × Layout)}
    {default a : α} (reads : decoder.Reads (.record members) a) (given : members ≠ [])
    (sound : Layout.AreSound members) :
    read decoder default (Layout.writeDocument members) = .ok a := by
  obtain ⟨root, document, shows⟩ := read?_writeDocument given sound
  simp only [read, document, shows.resolve]
  rw [reads _ [] root shows]

theorem read_yields {α : Type} {decoder : Decoder α} {p : α → Prop} {default a : α} {text : String}
    (yields : decoder.Yields p) (holds : p default) (got : read decoder default text = .ok a) :
    p a := by
  unfold read at got
  split at got
  · simp at got
  · split at got
    · obtain rfl := Except.ok.inj got
      exact holds
    · split at got
      · rename_i decoded
        obtain rfl := Except.ok.inj got
        exact yields _ _ _ _ decoded
      · simp at got

end InfraLint.Yaml
