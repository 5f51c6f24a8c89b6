import InfraLint.Json.Typed
import InfraLint.Proofs.Json.Reading

/-!
Objects as values and objects as maps. An object is read from an opening brace and from nothing
else, and the reader of maps takes exactly those texts from which the reader of values makes an
object, with the same members.
-/
namespace InfraLint.Json

inductive IsNumber : Json → Prop where
  | int (n : Int) : IsNumber (.int n)
  | float (x : Binary64) : IsNumber (.float x)

def NoObject (v : Json) : Prop := ∀ ms, v ≠ .object ms

namespace Reader

theorem yields_float (negative : Bool) (significand : Nat) (exponent : Int) :
    Yields IsNumber (float negative significand exponent) := by
  unfold float
  dsimp only
  split
  · exact yields_pure (.float _)
  · exact yields_fail _

theorem yields_exponent (negative : Bool) (significand : Nat) (scale : Int) :
    Yields IsNumber (exponent negative significand scale) := by
  unfold exponent
  refine yields_bind fun _ => yields_bind fun sign => ?_
  extract_lets behind
  have digits (down : Bool) : Yields IsNumber (behind down) := by
    refine yields_bind fun ds => yields_bind fun next => ?_
    split
    · exact yields_fail _
    · exact yields_failAhead _
    · dsimp only
      split
      · exact yields_bind fun _ => yields_float _ _ _
      · split
        · exact yields_bind fun _ => yields_fail _
        · exact yields_bind fun _ => yields_pure (.float _)
  split
  · exact yields_bind fun _ => yields_bind digits
  · exact yields_bind fun _ => yields_bind digits
  · exact yields_bind digits

theorem yields_fraction (negative : Bool) (significand : Nat) (scale : Int) :
    Yields IsNumber (fraction negative significand scale) := by
  unfold fraction
  refine yields_bind fun _ => yields_bind fun ds => yields_bind fun next => ?_
  split
  · exact yields_failAhead _
  · exact yields_failAhead _
  · refine yields_bind fun _ => yields_bind fun behind => ?_
    split
    · exact yields_exponent _ _ _
    · exact yields_exponent _ _ _
    · exact yields_float _ _ _

theorem yields_afterInteger (negative : Bool) (significand : Nat) :
    Yields IsNumber (afterInteger negative significand) := by
  unfold afterInteger
  refine yields_bind fun next => ?_
  split
  · exact yields_fraction _ _ _
  · exact yields_exponent _ _ _
  · exact yields_exponent _ _ _
  · split
    · exact yields_pure (.int _)
    · split
      · exact yields_pure (.float _)
      · exact yields_pure (.int _)

theorem yields_number (negative : Bool) : Yields IsNumber (number negative) := by
  unfold number
  refine yields_bind fun ds => yields_bind fun next => ?_
  split
  · exact yields_fail _
  · exact yields_failAhead _
  · exact yields_bind fun _ => yields_afterInteger _ _
  · exact yields_bind fun _ => yields_failAhead _
  · refine yields_bind fun _ => ?_
    split
    · exact yields_afterInteger _ _
    · refine yields_bind fun behind => ?_
      split
      · exact yields_fraction _ _ _
      · exact yields_exponent _ _ _
      · exact yields_exponent _ _ _
      · exact yields_float _ _ _

theorem yields_noObject_number (negative : Bool) : Yields NoObject (number negative) := by
  intro c v c' done ms same
  have number := yields_number negative c v c' done
  subst same
  cases number

variable {α : Type} {fuel room : Nat} {c c' : Cursor}

theorem peekPastWhite_bind (f : Option Char → Reader α) (c : Cursor) :
    (peekPastWhite >>= f) c = f c.skipWhite.rest.head? c.skipWhite := rfl

theorem advance_bind (f : Unit → Reader α) (c : Cursor) : (advance >>= f) c = f () c.advance := rfl

/-- What stands between two braces. -/
def Braced (inner : Reader α) (fuel : Nat) (c : Cursor) (ms : Members α) (c' : Cursor) : Prop :=
  c.skipWhite.rest.head? = some '{' ∧
    enclosed (memberValues inner fuel) '}' c.skipWhite.advance = .ok (ms, c')

theorem valueWith_object {inner : Option (Reader Json)} {ms : Members Json} :
    valueWith fuel inner c = .ok (.object ms, c') ↔
      ∃ reader, inner = some reader ∧ Braced reader fuel c ms c' := by
  unfold valueWith Braced
  rw [peekPastWhite_bind]
  generalize c.skipWhite = here
  by_cases brace : here.rest.head? = some '{'
  · cases inner with
    | none =>
      simp only [brace, reduceCtorEq, false_and, exists_false, iff_false]
      intro done
      cases done
    | some reader =>
      simp only [brace, Option.some.injEq, true_and, exists_eq_left']
      rw [advance_bind]
      constructor
      · intro done
        obtain ⟨members, behind, taken, same⟩ := bind_eq_ok.mp done
        cases same
        exact taken
      · intro members
        rw [bind_of_ok members]
        rfl
  · refine iff_of_false ?_ (by simp [brace])
    intro done
    refine (?_ : Yields NoObject _) here _ c' done ms rfl
    cases head : here.rest.head? with
    | none => exact yields_failAhead _
    | some x =>
      dsimp only
      split
      · exact yields_bind fun _ => yields_bind fun _ => yields_pure nofun
      · exact yields_bind fun _ => yields_bind fun _ => yields_pure nofun
      · exact yields_bind fun _ => yields_bind fun _ => yields_pure nofun
      · exact yields_bind fun _ => yields_bind fun _ => yields_pure nofun
      · exact yields_bind fun _ => yields_noObject_number true
      · split
        · exact yields_failAhead _
        · exact yields_bind fun _ => yields_bind fun _ => yields_pure nofun
      · exact absurd head brace
      · split
        · exact yields_noObject_number false
        · exact yields_failAhead _

theorem value_object {ms : Members Json} : value fuel room c = .ok (.object ms, c') ↔
    ∃ left, room = left + 1 ∧ Braced (value fuel left) fuel c ms c' := by
  cases room with
  | zero => simp [value, valueWith_object]
  | succ left => simp [value, valueWith_object]

theorem refuse_fails (expected : String) : Yields (fun _ : α => False) (refuse fuel expected) := by
  refine yields_bind fun next => ?_
  split
  · exact yields_fail _
  · exact yields_fail _
  · exact yields_bind fun _ => yields_fail _

theorem mapOf_eq_ok {item : Nat → Reader α} {ms : Members α} :
    mapOf fuel room item c = .ok (ms, c') ↔
      ∃ left, room = left + 1 ∧ Braced (item left) fuel c ms c' := by
  unfold mapOf Braced
  rw [peekPastWhite_bind]
  generalize c.skipWhite = here
  by_cases brace : here.rest.head? = some '{'
  · cases room with
    | zero =>
      refine iff_of_false ?_ (by simp)
      intro done
      simp only [brace] at done
      cases done
    | succ room =>
      simp only [brace, nested, Nat.add_right_cancel_iff, true_and, exists_eq_left']
      rw [advance_bind]
  · refine iff_of_false ?_ (by simp [brace])
    intro done
    refine (?_ : Yields (fun _ => False) _) here _ c' done
    split
    · exact yields_failAhead _
    · contradiction
    · exact refuse_fails _

/-- Both readers take the same texts. -/
theorem mapOf_value {ms : Members Json} :
    mapOf fuel room (value fuel) c = .ok (ms, c') ↔ value fuel room c = .ok (.object ms, c') := by
  rw [mapOf_eq_ok, value_object]

end Reader
end InfraLint.Json
