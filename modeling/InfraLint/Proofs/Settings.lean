import InfraLint.Settings
import Mathlib.Data.List.Nodup
import Mathlib.Data.List.TakeWhile

/-!
Environments with settings. The variables are taken up to the first one that is no text. If no
setting is given twice by those that are taken, the environment can be used exactly if all of its
variables are texts.
-/
namespace InfraLint.Settings

def names : List String := ["log_level", "log_format"]

def given (environment : List (String × String)) : List String :=
  (environment.filterMap fun v => settingName? v.1).filter names.contains

variable {environment : List (String × String)} {key value name : String}

theorem given_cons_known (named : settingName? key = some name)
    (known : names.contains name = true) :
    given ((key, value) :: environment) = name :: given environment := by
  simp only [given, List.filterMap_cons, named, List.filter_cons, known, if_true]

theorem given_cons_other
    (other : ∀ name, settingName? key = some name → names.contains name = false) :
    given ((key, value) :: environment) = given environment := by
  cases named : settingName? key with
  | none => simp only [given, List.filterMap_cons, named]
  | some name =>
    simp only [given, List.filterMap_cons, named, List.filter_cons, other name named,
      Bool.false_eq_true, if_false]

def Fresh (seen settings : List String) : Prop :=
  settings.Nodup ∧ ∀ name ∈ settings, name ∉ seen

theorem fresh_cons {seen settings : List String} :
    Fresh seen (name :: settings) ↔ name ∉ seen ∧ Fresh (name :: seen) settings := by
  simp only [Fresh, List.nodup_cons, List.forall_mem_cons]
  constructor
  · rintro ⟨⟨once, nodup⟩, unseen, rest⟩
    refine ⟨unseen, nodup, fun other member => ?_⟩
    rw [List.mem_cons, not_or]
    exact ⟨fun same => once (same ▸ member), rest other member⟩
  · rintro ⟨unseen, nodup, rest⟩
    have once : name ∉ settings := fun member => rest name member List.mem_cons_self
    exact ⟨⟨once, nodup⟩, unseen, fun other member inside =>
      rest other member (List.mem_cons_of_mem name inside)⟩

/-- The variables in front of the first one that is no text. -/
def taken (environment : List (String × String)) : List (String × String) :=
  environment.takeWhile isText

structure Taken (environment : List (String × String)) (once : Prop)
    (result : Except Fault Settings) : Prop where
  ok : once → environment.all isText = true → ∃ settings, result = .ok settings
  notUtf8 : once → environment.all isText = false → result = .error .notUtf8
  twice : ¬ once → ∃ name, result = .error (.duplicate name)

theorem Taken.cons {once : Prop} {result : Except Fault Settings}
    (behind : Taken environment once result) (text : isText (key, value) = true) :
    Taken ((key, value) :: environment) once result := by
  have all : ((key, value) :: environment).all isText = environment.all isText := by
    rw [List.all_cons, text, Bool.true_and]
  constructor
  · rw [all]
    exact behind.ok
  · rw [all]
    exact behind.notUtf8
  · exact behind.twice

/-- A variable that gives a setting may do so if none has given it before. -/
theorem taken_cons_given (text : isText (key, value) = true) {seen settings : List String}
    {result : Except Fault Settings}
    (behind : Taken environment (Fresh (name :: seen) settings) result) :
    Taken ((key, value) :: environment) (Fresh seen (name :: settings))
      (if seen.contains name then .error (.duplicate name) else result) := by
  by_cases member : name ∈ seen
  · have repeated : ¬ Fresh seen (name :: settings) := fun fresh => (fresh_cons.mp fresh).1 member
    rw [if_pos (by simpa using member)]
    exact ⟨fun once => absurd once repeated, fun once => absurd once repeated,
      fun _ => ⟨name, rfl⟩⟩
  · have same : Fresh seen (name :: settings) ↔ Fresh (name :: seen) settings := by
      simp [fresh_cons, member]
    rw [if_neg (by simpa using member), same]
    exact behind.cons text

/- By induction on the variables: `seen` holds the settings of those that have been taken. -/
theorem fold_taken {seen : List String} {settings : Settings} :
    Taken environment (Fresh seen (given (taken environment)))
      (fold environment seen settings) := by
  induction environment generalizing seen settings with
  | nil => exact ⟨fun _ _ => ⟨_, rfl⟩, by simp, by simp [Fresh, given, taken]⟩
  | cons v environment ih =>
    obtain ⟨key, value⟩ := v
    by_cases text : isText (key, value) = true
    · have front : taken ((key, value) :: environment) = (key, value) :: taken environment :=
        List.takeWhile_cons_of_pos text
      rw [fold, text, front]
      simp only [Bool.not_true, Bool.false_eq_true, if_false]
      split
      · rename_i named
        rw [given_cons_known named (by decide)]
        exact taken_cons_given text ih
      · rename_i named
        rw [given_cons_known named (by decide)]
        exact taken_cons_given text ih
      · rename_i notLevel notFormat
        rw [given_cons_other]
        · exact ih.cons text
        · intro name named
          rw [Bool.eq_false_iff]
          intro known
          have one : name = "log_level" ∨ name = "log_format" := by simpa [names] using known
          rcases one with rfl | rfl
          · exact notLevel named
          · exact notFormat named
    · have text : isText (key, value) = false := by simpa using text
      have front : taken ((key, value) :: environment) = [] :=
        List.takeWhile_cons_of_neg (by simp [text])
      have fresh : Fresh seen (given []) := by simp [Fresh, given]
      rw [fold, text, front]
      exact ⟨by simp [text], fun _ _ => rfl, fun repeated => absurd fresh repeated⟩

def Twice (environment : List (String × String)) : Prop := ¬ (given (taken environment)).Nodup

/-- Some variable is no text, and no setting is given twice in front of it. -/
def Foreign (environment : List (String × String)) : Prop :=
  ¬ Twice environment ∧ ∃ v ∈ environment, isText v = false

structure Usable (environment : List (String × String)) : Prop where
  once : (given environment).Nodup
  texts : ∀ v ∈ environment, isText v = true

theorem taken_eq_self (texts : ∀ v ∈ environment, isText v = true) :
    taken environment = environment :=
  List.takeWhile_eq_self_iff.mpr texts

theorem usable_iff : Usable environment ↔ ¬ Twice environment ∧ ¬ Foreign environment := by
  constructor
  · rintro ⟨once, texts⟩
    rw [Twice, taken_eq_self texts]
    refine ⟨not_not.mpr once, ?_⟩
    rintro ⟨_, v, member, foreign⟩
    simp [texts v member] at foreign
  · rintro ⟨once, known⟩
    have texts : ∀ v ∈ environment, isText v = true := by
      intro v member
      by_contra foreign
      exact known ⟨once, v, member, by simpa using foreign⟩
    rw [Twice, taken_eq_self texts, not_not] at once
    exact ⟨once, texts⟩

theorem ofEnvironment_taken :
    Taken environment (¬ Twice environment) (ofEnvironment environment) := by
  have all : Taken environment (Fresh [] (given (taken environment)))
    (ofEnvironment environment) := fold_taken
  have same : Fresh [] (given (taken environment)) ↔ ¬ Twice environment := by
    simp [Fresh, Twice]
  rwa [same] at all

theorem ofEnvironment_twice (twice : Twice environment) :
    ∃ name, ofEnvironment environment = .error (.duplicate name) :=
  ofEnvironment_taken.twice (not_not.mpr twice)

theorem ofEnvironment_foreign (foreign : Foreign environment) :
    ofEnvironment environment = .error .notUtf8 := by
  obtain ⟨once, v, member, bytes⟩ := foreign
  exact ofEnvironment_taken.notUtf8 once (List.all_eq_false.mpr ⟨v, member, by simp [bytes]⟩)

theorem ofEnvironment_usable (usable : Usable environment) :
    ∃ settings, ofEnvironment environment = .ok settings :=
  ofEnvironment_taken.ok (usable_iff.mp usable).1 (List.all_eq_true.mpr usable.texts)

end InfraLint.Settings
