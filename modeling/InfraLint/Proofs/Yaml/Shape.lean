import InfraLint.Yaml.Typed
import Mathlib.Data.List.Forall2

/-!
What decoders read, told without paths and faults: which nodes mean a text, a boolean, a number or a
list of such values.
-/
namespace InfraLint.Yaml

inductive IsText : Node → String → Prop where
  | scalar {mark : Mark} {p : Properties} {style : Style} {s : String} :
      IsText (.scalar mark p style s) s

inductive IsFlag : Node → Bool → Prop where
  | word {mark : Mark} {p : Properties} {style : Style} {s : String} {b : Bool}
      (form : Decoder.isReadByForm boolTag p style = true) (word : bool? s = some b) :
      IsFlag (.scalar mark p style s) b

inductive IsNumber : Node → Int → Prop where
  | digits {mark : Mark} {p : Properties} {style : Style} {s : String} {i : Int}
      (form : Decoder.isReadByForm intTag p style = true) (digits : integer? s.toList = some i)
      (fits : fitsSigned 64 i = true) : IsNumber (.scalar mark p style s) i

/-- A decoder, and the nodes that say a value. -/
structure Shape (α : Type) where
  decoder : Decoder α
  Means : Anchors → Node → α → Prop
  decodes : ∀ {anchors : Anchors} {path : List Step} {n : Node} {a : α},
    decoder anchors path n = .ok a ↔ Means anchors n a

namespace Shape

theorem unique {α : Type} (shape : Shape α) {anchors : Anchors} {n : Node} {a b : α}
    (first : shape.Means anchors n a) (second : shape.Means anchors n b) : a = b := by
  have read : shape.decoder anchors [] n = .ok a := shape.decodes.mpr first
  rw [shape.decodes.mpr second] at read
  exact (Except.ok.inj read).symm

/- Where nothing is given the default is, and anything else is refused. -/
theorem leftOut_eq_ok {α : Type} {default a : α} {expected : String} {anchors : Anchors}
    {path : List Step} {n : Node} :
    (if Decoder.isLeftOut n then Except.ok default else Decoder.refuse expected anchors path n) =
      Except.ok a ↔ Decoder.isLeftOut n = true ∧ default = a := by
  by_cases leftOut : Decoder.isLeftOut n = true
  · simp [leftOut]
  · simp [leftOut, Decoder.refuse]

section Read

variable {anchors : Anchors} {n : Node} {path : List Step}

theorem string_eq_ok {s : String} :
    Decoder.string anchors path n = .ok s ↔ IsText n s := by
  constructor
  · intro read
    cases n with
    | scalar =>
      obtain rfl := Except.ok.inj read
      exact .scalar
    | sequence => cases read
    | mapping => cases read
    | reference => cases read
  · intro means
    cases means with
    | scalar => rfl

theorem boolean_eq_ok {b : Bool} :
    Decoder.boolean anchors path n = .ok b ↔ IsFlag n b := by
  constructor
  · intro read
    cases n with
    | scalar mark p style s =>
      simp only [Decoder.boolean] at read
      split at read
      · rename_i word
        obtain rfl := Except.ok.inj read
        obtain ⟨form, word⟩ := Option.ite_none_right_eq_some.mp word
        exact .word form word
      · cases read
    | sequence => cases read
    | mapping => cases read
    | reference => cases read
  · intro means
    cases means with
    | word form word => simp only [Decoder.boolean, form, if_true, word]

theorem integer_eq_ok {i : Int} :
    Decoder.integer anchors path n = .ok i ↔ IsNumber n i := by
  constructor
  · intro read
    cases n with
    | scalar mark p style s =>
      simp only [Decoder.integer] at read
      split at read
      · rename_i digits
        obtain rfl := Except.ok.inj read
        obtain ⟨form, digits⟩ := Option.ite_none_right_eq_some.mp digits
        obtain ⟨digits, fits⟩ := Option.filter_eq_some_iff.mp digits
        exact .digits form digits fits
      · cases read
    | sequence => cases read
    | mapping => cases read
    | reference => cases read
  · intro means
    cases means with
    | digits form digits fits =>
      simp only [Decoder.integer, form, if_true, digits, Option.filter_some, fits]

end Read

def text : Shape String := ⟨Decoder.string, fun _ => IsText, string_eq_ok⟩

def flag : Shape Bool := ⟨Decoder.boolean, fun _ => IsFlag, boolean_eq_ok⟩

def number : Shape Int := ⟨Decoder.integer, fun _ => IsNumber, integer_eq_ok⟩

/- A list is a sequence, or nothing at all. -/
inductive ListMeans {α : Type} (item : Shape α) (anchors : Anchors) :
    Node → List α → Prop where
  | sequence {mark : Mark} {p : Properties} {ns : List Node} {values : List α}
      (each : List.Forall₂ (fun n a => item.Means anchors (n.resolve anchors) a) ns values) :
      ListMeans item anchors (.sequence mark p ns) values
  | leftOut {n : Node} (leftOut : Decoder.isLeftOut n = true) : ListMeans item anchors n []

section List

variable {α : Type} {item : Shape α} {anchors : Anchors} {path : List Step} {values : List α}

theorem itemsFrom_eq_ok {i : Nat} {ns : List Node} :
    Decoder.itemsFrom item.decoder anchors path i ns = .ok values ↔
      List.Forall₂ (fun n a => item.Means anchors (n.resolve anchors) a) ns values := by
  induction ns generalizing i values with
  | nil =>
    rw [Decoder.itemsFrom, List.forall₂_nil_left_iff, Except.ok.injEq]
    exact eq_comm
  | cons n ns ih =>
    rw [Decoder.itemsFrom, List.forall₂_cons_left_iff]
    cases read : item.decoder anchors (path ++ [.index i]) (n.resolve anchors) with
    | error fault =>
      constructor
      · intro made
        cases made
      · intro each
        obtain ⟨a, _, means, _⟩ := each
        rw [item.decodes.mpr means] at read
        cases read
    | ok a =>
      have means := item.decodes.mp read
      constructor
      · intro made
        cases others : Decoder.itemsFrom item.decoder anchors path (i + 1) ns with
        | error fault => simp [others, bind, Except.bind] at made
        | ok rest =>
          simp only [others, bind, Except.bind, pure, Except.pure, Except.ok.injEq] at made
          exact ⟨a, rest, means, ih.mp others, made.symm⟩
      · intro each
        obtain ⟨b, rest, means', others, rfl⟩ := each
        obtain rfl := item.unique means means'
        simp only [ih.mpr others, bind, Except.bind, pure, Except.pure]

theorem list_eq_ok {n : Node} :
    Decoder.list item.decoder anchors path n = .ok values ↔ ListMeans item anchors n values := by
  have other (noSequence : ∀ mark p ns, n ≠ .sequence mark p ns) :
      (if Decoder.isLeftOut n then Except.ok [] else
        Decoder.refuse "a sequence" anchors path n) = Except.ok values ↔
      ListMeans item anchors n values := by
    refine leftOut_eq_ok.trans ?_
    constructor
    · intro h
      obtain ⟨leftOut, rfl⟩ := h
      exact .leftOut leftOut
    · intro means
      cases means with
      | sequence => exact absurd rfl (noSequence _ _ _)
      | leftOut leftOut => exact ⟨leftOut, rfl⟩
  cases n with
  | sequence mark p ns =>
    refine itemsFrom_eq_ok.trans ⟨.sequence, ?_⟩
    intro means
    cases means with
    | sequence each => exact each
    | leftOut leftOut => cases leftOut
  | scalar => exact other fun _ _ _ same => by cases same
  | mapping => exact other fun _ _ _ same => by cases same
  | reference => exact other fun _ _ _ same => by cases same

end List

def list {α : Type} (item : Shape α) : Shape (List α) :=
  ⟨Decoder.list item.decoder, ListMeans item, list_eq_ok⟩

end Shape

end InfraLint.Yaml
