import InfraLint.Proofs.Yaml.Shape
import Mathlib.Data.List.Pairwise

/-!
Records by their fields. A slot is a field with its key, and its value is what the node under that
key means, or the default where the key is not listed. Keys without a slot make no difference, and
neither does the order of the keys.
-/
namespace InfraLint.Yaml

/-- A field of a record: its key, the shape of its values, and its place in the record. -/
structure Slot (σ : Type) where
  {α : Type}
  key : String
  shape : Shape α
  get : σ → α
  set : α → σ → σ
  get_set : ∀ a r, get (set a r) = a := by intros; rfl

def Slot.field {σ : Type} (s : Slot σ) : Decoder (σ → σ) := fun anchors path n =>
  (s.shape.decoder anchors path n).map s.set

def Slot.Apart {σ : Type} (s t : Slot σ) : Prop :=
  s.key ≠ t.key ∧ (∀ a r, s.get (t.set a r) = s.get r) ∧ ∀ a r, t.get (s.set a r) = t.get r

instance {σ : Type} : Std.Symm (@Slot.Apart σ) :=
  ⟨fun _ _ apart => ⟨apart.1.symm, apart.2.2, apart.2.1⟩⟩

/-- A record by its slots. They are all the fields that the decoder knows, none reaches into
another one, and together they are the whole record. -/
structure RecordShape (σ : Type) where
  name : String
  default : σ
  fields : Decoder.Fields σ
  slots : List (Slot σ)
  known : ∀ s ∈ slots, fields s.key = some s.field
  all : ∀ key field, fields key = some field → ∃ s ∈ slots, s.key = key
  apart : slots.Pairwise Slot.Apart
  ext : ∀ r r', (∀ s ∈ slots, s.get r = s.get r') → r = r'

/- The keys of a mapping with what they are given, aliases followed. -/
def entriesOf (anchors : Anchors) : List (Node × Node) → Option (List (String × Node))
  | [] => some []
  | (k, v) :: ms =>
    match k.resolve anchors with
    | .scalar _ _ _ key => (entriesOf anchors ms).map ((key, v.resolve anchors) :: ·)
    | _ => none

section Entries

variable {σ : Type} {slots : List (Slot σ)} {anchors : Anchors} {seen : List String}
  {state r : σ} {entries : List (String × Node)} {key : String} {n : Node}

/- The value is that of the key, and where the key is not listed it stays as it was. -/
@[mk_iff]
structure Slot.Given (s : Slot σ) (anchors : Anchors) (state : σ)
    (entries : List (String × Node)) (r : σ) : Prop where
  listed : ∀ n, entries.lookup s.key = some n → s.shape.Means anchors n (s.get r)
  unlisted : entries.lookup s.key = none → s.get r = s.get state

def Overrides (slots : List (Slot σ)) (anchors : Anchors) (state : σ)
    (entries : List (String × Node)) (r : σ) : Prop :=
  ∀ s ∈ slots, s.Given anchors state entries r

/- No field is listed twice. Other keys may be. -/
def Once (slots : List (Slot σ)) (entries : List (String × Node)) : Prop :=
  entries.Pairwise fun e e' => ∀ s ∈ slots, e.1 = s.key → e'.1 ≠ s.key

theorem once_of_nodup (nodup : (entries.map Prod.fst).Nodup) : Once slots entries := by
  refine (List.pairwise_map.mp nodup).imp ?_
  intro e e' different s _ first second
  exact different (first.trans second.symm)

/- What the decoder makes of members, when some keys have been seen before them. -/
structure Gives (slots : List (Slot σ)) (anchors : Anchors) (seen : List String) (state : σ)
    (entries : List (String × Node)) (r : σ) : Prop where
  once : Once slots entries
  fresh : ∀ s ∈ slots, s.key ∈ seen → s.key ∉ entries.map Prod.fst
  overrides : Overrides slots anchors state entries r

theorem lookup_cons_other {other : String} (different : other ≠ key) :
    ((key, n) :: entries).lookup other = entries.lookup other := by
  rw [List.lookup_cons, beq_false_of_ne different]

theorem lookup_cons_same : ((key, n) :: entries).lookup key = some n := by
  rw [List.lookup_cons, beq_self_eq_true]

theorem lookup_eq_none (fresh : key ∉ entries.map Prod.fst) : entries.lookup key = none := by
  rw [List.lookup_eq_none_iff]
  intro e member
  rw [bne_iff_ne]
  intro same
  exact fresh (same ▸ List.mem_map_of_mem member)

theorem absent_later {s : Slot σ} (once : Once slots ((s.key, n) :: entries)) (member : s ∈ slots) :
    s.key ∉ entries.map Prod.fst := by
  intro inside
  obtain ⟨e, later, same⟩ := List.mem_map.mp inside
  exact (List.pairwise_cons.mp once).1 e later s member rfl same

theorem fresh_later {s : Slot σ} (once : Once slots ((s.key, n) :: entries)) (member : s ∈ slots)
    (fresh : ∀ t ∈ slots, t.key ∈ seen → t.key ∉ ((s.key, n) :: entries).map Prod.fst) :
    ∀ t ∈ slots, t.key ∈ s.key :: seen → t.key ∉ entries.map Prod.fst := by
  intro t inside before listed
  rcases List.mem_cons.mp before with same | before
  · exact absent_later once member (same ▸ listed)
  · exact fresh t inside before (List.mem_cons_of_mem s.key listed)

/-- A key without a slot makes no difference. -/
theorem gives_unknown (unknown : ∀ s ∈ slots, s.key ≠ key) :
    Gives slots anchors seen state ((key, n) :: entries) r ↔
      Gives slots anchors seen state entries r := by
  constructor
  · intro gives
    refine ⟨(List.pairwise_cons.mp gives.once).2, ?_, ?_⟩
    · intro s member before inside
      exact gives.fresh s member before (List.mem_cons_of_mem key inside)
    · intro s member
      obtain ⟨listed, unlisted⟩ := gives.overrides s member
      rw [lookup_cons_other (unknown s member)] at listed unlisted
      exact ⟨listed, unlisted⟩
  · intro gives
    refine ⟨List.pairwise_cons.mpr ⟨?_, gives.once⟩, ?_, ?_⟩
    · intro _ _ s member same
      exact absurd same.symm (unknown s member)
    · intro s member before inside
      rcases List.mem_cons.mp inside with same | inside
      · exact unknown s member same
      · exact gives.fresh s member before inside
    · intro s member
      obtain ⟨listed, unlisted⟩ := gives.overrides s member
      rw [← lookup_cons_other (n := n) (unknown s member)] at listed unlisted
      exact ⟨listed, unlisted⟩

/- The same fields are listed with values that mean the same. Places, other keys and the order of
   the keys may differ. -/
def SameListing (slots : List (Slot σ)) (anchors anchors' : Anchors)
    (entries entries' : List (String × Node)) : Prop :=
  ∀ s ∈ slots, Option.Rel (fun n n' => ∀ a, s.shape.Means anchors n a ↔ s.shape.Means anchors' n' a)
    (entries.lookup s.key) (entries'.lookup s.key)

theorem overrides_same {anchors' : Anchors} {entries' : List (String × Node)}
    (same : SameListing slots anchors anchors' entries entries') :
    Overrides slots anchors state entries r ↔ Overrides slots anchors' state entries' r := by
  refine forall₂_congr ?_
  intro s member
  have alike := same s member
  cases here : entries.lookup s.key with
  | none =>
    cases there : entries'.lookup s.key with
    | none => simp [Slot.given_iff, here, there]
    | some n' => simp [here, there] at alike
  | some n =>
    cases there : entries'.lookup s.key with
    | none => simp [here, there] at alike
    | some n' =>
      rw [here, there, Option.rel_some_some] at alike
      simp [Slot.given_iff, here, there, alike]

/- A field is listed with a value that means none of its kind. -/
def Misfit (slots : List (Slot σ)) (anchors : Anchors) (entries : List (String × Node)) : Prop :=
  ∃ s ∈ slots, ∃ n, entries.lookup s.key = some n ∧ ∀ a, ¬ s.shape.Means anchors n a

theorem misfit_append {others : List (Slot σ)} : Misfit (slots ++ others) anchors entries ↔
    Misfit slots anchors entries ∨ Misfit others anchors entries := by
  simp only [Misfit, List.mem_append, or_and_right, exists_or]

theorem misfit_cons (once : Once slots ((key, n) :: entries))
    (misfit : Misfit slots anchors entries) :
    Misfit slots anchors ((key, n) :: entries) := by
  obtain ⟨s, member, m, listed, wrong⟩ := misfit
  by_cases same : s.key = key
  · subst same
    rw [lookup_eq_none (absent_later once member)] at listed
    cases listed
  · exact ⟨s, member, m, by rw [lookup_cons_other same, listed], wrong⟩

theorem not_misfit (overrides : Overrides slots anchors state entries r) :
    ¬ Misfit slots anchors entries := by
  intro misfit
  obtain ⟨s, member, n, listed, wrong⟩ := misfit
  exact wrong _ ((overrides s member).listed n listed)

end Entries

namespace RecordShape

variable {σ : Type} {d : RecordShape σ} {anchors : Anchors} {seen : List String} {state r : σ}
  {entries : List (String × Node)} {n : Node} {s t : Slot σ}

theorem slot_unique (first : s ∈ d.slots) (second : t ∈ d.slots) (same : s.key = t.key) :
    s = t := by
  apply Classical.byContradiction
  intro different
  exact (d.apart.forall first second different).1 same

theorem get_set_other (first : s ∈ d.slots) (second : t ∈ d.slots) (different : s.key ≠ t.key)
    (a : t.α) (r : σ) : s.get (t.set a r) = s.get r := by
  have other : s ≠ t := fun same => different (congrArg Slot.key same)
  exact (d.apart.forall first second other).2.1 a r

theorem slot_of_field {key : String} {field : Decoder (σ → σ)}
    (isField : d.fields key = some field) : ∃ s ∈ d.slots, s.key = key ∧ field = s.field := by
  obtain ⟨s, member, rfl⟩ := d.all key field isField
  rw [d.known s member] at isField
  exact ⟨s, member, rfl, (Option.some.inj isField).symm⟩

theorem no_slot {key : String} (unknown : d.fields key = none) : ∀ s ∈ d.slots, s.key ≠ key := by
  intro s member same
  rw [← same, d.known s member] at unknown
  cases unknown

theorem overrides_nil : Overrides d.slots anchors state [] r ↔ state = r := by
  constructor
  · intro overrides
    apply d.ext
    intro s member
    exact ((overrides s member).unlisted rfl).symm
  · intro same s _
    subst same
    refine ⟨?_, fun _ => rfl⟩
    intro n listed
    cases listed

/-- The value of a field that is listed is set once and then left alone. -/
theorem overrides_known {a : s.α} (member : s ∈ d.slots) (means : s.shape.Means anchors n a)
    (fresh : s.key ∉ entries.map Prod.fst) :
    Overrides d.slots anchors state ((s.key, n) :: entries) r ↔
      Overrides d.slots anchors (s.set a state) entries r := by
  have absent := lookup_eq_none fresh
  constructor
  · intro overrides t inside
    obtain ⟨listed, unlisted⟩ := overrides t inside
    by_cases same : t.key = s.key
    · obtain rfl := slot_unique inside member same
      have value := t.shape.unique (listed n lookup_cons_same) means
      refine ⟨?_, fun _ => value.trans (t.get_set a state).symm⟩
      intro m found
      rw [absent] at found
      cases found
    · rw [lookup_cons_other same] at listed unlisted
      refine ⟨listed, fun nowhere => (unlisted nowhere).trans ?_⟩
      exact (get_set_other inside member same a state).symm
  · intro overrides t inside
    obtain ⟨listed, unlisted⟩ := overrides t inside
    by_cases same : t.key = s.key
    · obtain rfl := slot_unique inside member same
      have value := (unlisted absent).trans (t.get_set a state)
      rw [← value] at means
      refine ⟨?_, ?_⟩
      · intro m found
        rw [lookup_cons_same] at found
        obtain rfl := Option.some.inj found
        exact means
      · intro nowhere
        rw [lookup_cons_same] at nowhere
        cases nowhere
    · rw [get_set_other inside member same a state] at unlisted
      rw [← lookup_cons_other (n := n) same] at listed unlisted
      exact ⟨listed, unlisted⟩

theorem gives_known (member : s ∈ d.slots) :
    Gives d.slots anchors seen state ((s.key, n) :: entries) r ↔
      s.key ∉ seen ∧ ∃ a, s.shape.Means anchors n a ∧
        Gives d.slots anchors (s.key :: seen) (s.set a state) entries r := by
  constructor
  · intro gives
    have absent := absent_later gives.once member
    have means := (gives.overrides s member).listed n lookup_cons_same
    exact ⟨fun before => gives.fresh s member before List.mem_cons_self, _, means,
      (List.pairwise_cons.mp gives.once).2, fresh_later gives.once member gives.fresh,
      (overrides_known member means absent).mp gives.overrides⟩
  · intro h
    obtain ⟨unseen, a, means, gives⟩ := h
    have absent := gives.fresh s member List.mem_cons_self
    refine ⟨List.pairwise_cons.mpr ⟨?_, gives.once⟩, ?_,
      (overrides_known member means absent).mpr gives.overrides⟩
    · intro e later t _ same other
      exact absent (List.mem_map.mpr ⟨e, later, other.trans same.symm⟩)
    · intro t inside before listed
      rcases List.mem_cons.mp listed with same | listed
      · have same : t.key = s.key := same
        exact unseen (same ▸ before)
      · exact gives.fresh t inside (List.mem_cons_of_mem s.key before) listed

/-- Where nothing misfits, the values of all that is listed make a record. -/
theorem exists_gives (once : Once d.slots entries)
    (fresh : ∀ s ∈ d.slots, s.key ∈ seen → s.key ∉ entries.map Prod.fst)
    (fits : ¬ Misfit d.slots anchors entries) :
    ∃ r, Gives d.slots anchors seen state entries r := by
  induction entries generalizing seen state with
  | nil => exact ⟨state, once, fresh, overrides_nil.mpr rfl⟩
  | cons entry entries ih =>
    obtain ⟨key, n⟩ := entry
    have onceLater := (List.pairwise_cons.mp once).2
    have fitsLater : ¬ Misfit d.slots anchors entries := mt (misfit_cons once) fits
    by_cases known : ∃ s ∈ d.slots, s.key = key
    · obtain ⟨s, member, rfl⟩ := known
      have value : ∃ a, s.shape.Means anchors n a := by
        apply Classical.byContradiction
        intro none
        exact fits ⟨s, member, n, lookup_cons_same, not_exists.mp none⟩
      obtain ⟨a, means⟩ := value
      have unseen : s.key ∉ seen := fun before => fresh s member before List.mem_cons_self
      have made : ∃ r, Gives d.slots anchors (s.key :: seen) (s.set a state) entries r :=
        ih onceLater (fresh_later once member fresh) fitsLater
      obtain ⟨r, gives⟩ := made
      exact ⟨r, (gives_known member).mpr ⟨unseen, a, means, gives⟩⟩
    · have unknown : ∀ s ∈ d.slots, s.key ≠ key := by
        intro s member same
        exact known ⟨s, member, same⟩
      have freshLater : ∀ s ∈ d.slots, s.key ∈ seen → s.key ∉ entries.map Prod.fst := by
        intro s member before inside
        exact fresh s member before (List.mem_cons_of_mem key inside)
      obtain ⟨r, gives⟩ := ih onceLater freshLater fitsLater
      exact ⟨r, (gives_unknown unknown).mpr gives⟩

/-- By induction on the members, with what has been set and seen so far as the state. -/
theorem membersFrom_eq_ok (d : RecordShape σ) {path : List Step} {mark : Mark}
    {ms : List (Node × Node)} :
    Decoder.membersFrom d.fields anchors path mark seen state ms = .ok r ↔
      ∃ entries, entriesOf anchors ms = some entries ∧
        Gives d.slots anchors seen state entries r := by
  induction ms generalizing seen state with
  | nil =>
    rw [Decoder.membersFrom, Except.ok.injEq]
    constructor
    · intro same
      exact ⟨[], rfl, .nil, fun _ _ _ => List.not_mem_nil, overrides_nil.mpr same⟩
    · intro h
      obtain ⟨_, read, gives⟩ := h
      obtain rfl := Option.some.inj read
      exact overrides_nil.mp gives.overrides
  | cons member ms ih =>
    obtain ⟨k, v⟩ := member
    cases isKey : k.resolve anchors with
    | scalar mark' p style key =>
      have first : entriesOf anchors ((k, v) :: ms) =
          (entriesOf anchors ms).map ((key, v.resolve anchors) :: ·) := by
        simp only [entriesOf, isKey]
      have parts : (∃ entries, entriesOf anchors ((k, v) :: ms) = some entries ∧
          Gives d.slots anchors seen state entries r) ↔
          ∃ entries, entriesOf anchors ms = some entries ∧
            Gives d.slots anchors seen state ((key, v.resolve anchors) :: entries) r := by
        rw [first]
        simp
      rw [parts, Decoder.membersFrom]
      simp only [isKey, Decoder.text, bind, Except.bind]
      cases known : d.fields key with
      | none => simp only [gives_unknown (no_slot known), ih]
      | some field =>
        obtain ⟨s, inside, rfl, rfl⟩ := slot_of_field known
        simp only [gives_known inside, List.contains_iff_mem]
        by_cases before : s.key ∈ seen
        · simp [before]
        · cases value : s.shape.decoder anchors (path ++ [Decoder.stepOf k])
              (v.resolve anchors) with
          | error fault =>
            have silent (a : s.α) : ¬ s.shape.Means anchors (v.resolve anchors) a := by
              intro means
              rw [s.shape.decodes.mpr means] at value
              cases value
            simp [before, Slot.field, value, silent, Except.map]
          | ok a =>
            have means := s.shape.decodes.mp value
            have only (b : s.α) : s.shape.Means anchors (v.resolve anchors) b ↔ b = a :=
              ⟨fun means' => s.shape.unique means' means, fun same => same ▸ means⟩
            simp [before, Slot.field, value, only, Except.map, ih]
    | sequence => simp [entriesOf, isKey, Decoder.membersFrom, Decoder.text, Decoder.refuse, bind,
        Except.bind]
    | mapping => simp [entriesOf, isKey, Decoder.membersFrom, Decoder.text, Decoder.refuse, bind,
        Except.bind]
    | reference => simp [entriesOf, isKey, Decoder.membersFrom, Decoder.text, Decoder.refuse, bind,
        Except.bind]

/- A mapping whose keys are texts and that lists no field twice. -/
inductive Keyed (d : RecordShape σ) (anchors : Anchors) :
    Node → List (String × Node) → Prop where
  | mapping {mark : Mark} {p : Properties} {ms : List (Node × Node)}
      {entries : List (String × Node)} (read : entriesOf anchors ms = some entries)
      (once : Once d.slots entries) : Keyed d anchors (.mapping mark p ms) entries

/- A record is such a mapping, or nothing at all. -/
inductive Means (d : RecordShape σ) (anchors : Anchors) : Node → σ → Prop where
  | mapping {n : Node} {entries : List (String × Node)} {r : σ} (keyed : d.Keyed anchors n entries)
      (overrides : Overrides d.slots anchors d.default entries r) : Means d anchors n r
  | leftOut {n : Node} (leftOut : Decoder.isLeftOut n = true) : Means d anchors n d.default

theorem means_keyed (keyed : d.Keyed anchors n entries) :
    d.Means anchors n r ↔ Overrides d.slots anchors d.default entries r := by
  constructor
  · intro means
    cases keyed with
    | mapping read once =>
      cases means with
      | mapping keyed overrides =>
        cases keyed with
        | mapping read' _ =>
          obtain rfl := Option.some.inj (read.symm.trans read')
          exact overrides
      | leftOut leftOut => cases leftOut
  · exact .mapping keyed

theorem exists_overrides (once : Once d.slots entries) :
    (∃ r, Overrides d.slots anchors d.default entries r) ↔ ¬ Misfit d.slots anchors entries := by
  constructor
  · intro h
    obtain ⟨r, overrides⟩ := h
    exact not_misfit overrides
  · intro fits
    have fresh : ∀ s ∈ d.slots, s.key ∈ [] → s.key ∉ entries.map Prod.fst := by
      intro s _ seen
      cases seen
    have made : ∃ r, Gives d.slots anchors [] d.default entries r := exists_gives once fresh fits
    obtain ⟨r, gives⟩ := made
    exact ⟨r, gives.overrides⟩

/-- A mapping is a record exactly when nothing in it misfits. -/
theorem keyed_means (keyed : d.Keyed anchors n entries) :
    (∃ r, d.Means anchors n r) ↔ ¬ Misfit d.slots anchors entries := by
  simp only [means_keyed keyed]
  cases keyed with
  | mapping read once => exact exists_overrides once

theorem record_eq_ok (d : RecordShape σ) {path : List Step} :
    Decoder.record d.name d.default d.fields anchors path n = .ok r ↔ d.Means anchors n r := by
  have other (noMapping : ∀ mark p ms, n ≠ .mapping mark p ms) :
      (if Decoder.isLeftOut n then Except.ok d.default else
        Decoder.refuse ("struct " ++ d.name) anchors path n) = Except.ok r ↔
      d.Means anchors n r := by
    refine Shape.leftOut_eq_ok.trans ?_
    constructor
    · intro h
      obtain ⟨leftOut, rfl⟩ := h
      exact .leftOut leftOut
    · intro means
      cases means with
      | mapping keyed =>
        cases keyed with
        | mapping => exact absurd rfl (noMapping _ _ _)
      | leftOut leftOut => exact ⟨leftOut, rfl⟩
  cases n with
  | mapping mark p ms =>
    refine d.membersFrom_eq_ok.trans ?_
    constructor
    · intro h
      obtain ⟨entries, read, gives⟩ := h
      exact .mapping (.mapping read gives.once) gives.overrides
    · intro means
      cases means with
      | mapping keyed overrides =>
        cases keyed with
        | mapping read once =>
          refine ⟨_, read, once, ?_, overrides⟩
          intro s _ seen
          cases seen
      | leftOut leftOut => cases leftOut
  | scalar => exact other fun _ _ _ same => by cases same
  | sequence => exact other fun _ _ _ same => by cases same
  | reference => exact other fun _ _ _ same => by cases same

def shape (d : RecordShape σ) : Shape σ :=
  ⟨Decoder.record d.name d.default d.fields, d.Means, d.record_eq_ok⟩

/- Two nodes list the same fields, both are left out, or both are no record. -/
inductive Alike (d : RecordShape σ) (anchors anchors' : Anchors) : Node → Node → Prop where
  | listing {n n' : Node} {entries entries' : List (String × Node)}
      (keyed : d.Keyed anchors n entries) (keyed' : d.Keyed anchors' n' entries')
      (same : SameListing d.slots anchors anchors' entries entries') : Alike d anchors anchors' n n'
  | leftOut {n n' : Node} (leftOut : Decoder.isLeftOut n = true)
      (leftOut' : Decoder.isLeftOut n' = true) : Alike d anchors anchors' n n'
  | refused {n n' : Node} (refused : ∀ r, ¬ d.Means anchors n r)
      (refused' : ∀ r, ¬ d.Means anchors' n' r) : Alike d anchors anchors' n n'

theorem means_leftOut (leftOut : Decoder.isLeftOut n = true) :
    d.Means anchors n r ↔ r = d.default := by
  constructor
  · intro means
    cases means with
    | mapping keyed =>
      cases keyed with
      | mapping => cases leftOut
    | leftOut => rfl
  · intro same
    subst same
    exact .leftOut leftOut

theorem Alike.means {anchors' : Anchors} {n' : Node} (alike : d.Alike anchors anchors' n n')
    (r : σ) : d.Means anchors n r ↔ d.Means anchors' n' r := by
  cases alike with
  | listing keyed keyed' same =>
    rw [means_keyed keyed, means_keyed keyed']
    exact overrides_same same
  | leftOut leftOut leftOut' => rw [means_leftOut leftOut, means_leftOut leftOut']
  | refused refused refused' => exact iff_of_false (refused r) (refused' r)

/- A field of the record has a value of the wrong kind, or there is no record. -/
inductive Misfits (d : RecordShape σ) (anchors : Anchors) : Node → Prop where
  | field {n : Node} {entries : List (String × Node)} (keyed : d.Keyed anchors n entries)
      (misfit : Misfit d.slots anchors entries) : Misfits d anchors n
  | other {n : Node} (unkeyed : ∀ entries, ¬ d.Keyed anchors n entries)
      (given : Decoder.isLeftOut n = false) : Misfits d anchors n

theorem misfits_iff : d.Misfits anchors n ↔ ∀ r, ¬ d.Means anchors n r := by
  constructor
  · intro misfits r means
    cases misfits with
    | field keyed misfit => exact (keyed_means keyed).mp ⟨r, means⟩ misfit
    | other unkeyed given =>
      cases means with
      | mapping keyed => exact unkeyed _ keyed
      | leftOut leftOut => simp [leftOut] at given
  · intro refused
    by_cases keyed : ∃ entries, d.Keyed anchors n entries
    · obtain ⟨entries, keyed⟩ := keyed
      refine .field keyed ?_
      apply Classical.byContradiction
      intro fits
      obtain ⟨r, means⟩ := (keyed_means keyed).mpr fits
      exact refused r means
    · refine .other (not_exists.mp keyed) ?_
      rw [← Bool.not_eq_true]
      intro leftOut
      exact refused _ (.leftOut leftOut)

end RecordShape
end InfraLint.Yaml
