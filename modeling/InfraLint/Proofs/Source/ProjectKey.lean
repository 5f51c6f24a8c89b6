import InfraLint.Proofs.Source.Header
import InfraLint.Proofs.Text.LeftToRight
import InfraLint.Proofs.Text.Standing
import InfraLint.Source.ProjectTag

/-!
How the `Project` key of a tag map reads. `ProjectAt` says what stands at a place where the key is
read, and the first such place of a text decides what the text says.
-/
namespace InfraLint.Source
open Text

def IsQuote (c : Char) : Prop := c = '"' ∨ c = '\''

def IsSign (c : Char) : Prop := c = '=' ∨ c = ':'

/-- What a value in quotes says. -/
def quotedTag (value : List Char) : ProjectTag :=
  if isInterpolated (.ofList value) then .reference else .literal (.ofList value)

/-- What a value says, from its first character on. A quote that is never closed is no literal. -/
inductive ValueReads : List Char → ProjectTag → Prop where
  | closed {q : Char} {value rest : List Char} (quote : IsQuote q) (fresh : q ∉ value) :
      ValueReads (q :: (value ++ q :: rest)) (quotedTag value)
  | unclosed {q : Char} {rest : List Char} (quote : IsQuote q) (unclosed : q ∉ rest) :
      ValueReads (q :: rest) .reference
  | bare {c : Char} {rest : List Char} (unquoted : ¬ IsQuote c) (unblanked : isBlank c = false)
      (given : c ≠ ',' ∧ c ≠ '}') : ValueReads (c :: rest) .reference

/-- A sign with a value behind it, in free white space. -/
inductive AssignedValue : List Char → ProjectTag → Prop where
  | mk {gap space value : List Char} {sign : Char} {tag : ProjectTag} (blank₁ : AllBlank gap)
      (isSign : IsSign sign) (blank₂ : AllBlank space) (reads : ValueReads value tag) :
      AssignedValue (gap ++ sign :: (space ++ value)) tag

/-- The key at some place of a text, and the value behind it. One quote may close the key. -/
inductive ProjectAt : Option Char → List Char → ProjectTag → Prop where
  | bare {before : Option Char} {s : List Char} {tag : ProjectTag}
      (apart : before.any isWord = false) (assigned : AssignedValue s tag) :
      ProjectAt before ("Project".toList ++ s) tag
  | quoted {before : Option Char} {mark : Char} {s : List Char} {tag : ProjectTag}
      (apart : before.any isWord = false) (quote : IsQuote mark) (assigned : AssignedValue s tag) :
      ProjectAt before ("Project".toList ++ mark :: s) tag

theorem closed?_append {q : Char} {value rest : List Char} (fresh : q ∉ value) :
    closed? q (value ++ q :: rest) = some value := by
  simp [closed?, takeWhile_ne_append fresh]

theorem closed?_of_not_mem {q : Char} {s : List Char} (unclosed : q ∉ s) : closed? q s = none := by
  simp [closed?, unclosed]

theorem quote_not_blank {c : Char} (quote : IsQuote c) : isBlank c = false := by
  rcases quote with rfl | rfl <;> decide

theorem quote_not_word {c : Char} (quote : IsQuote c) : isWord c = false := by
  rcases quote with rfl | rfl <;> decide

theorem sign_not_blank {c : Char} (sign : IsSign c) : isBlank c = false := by
  rcases sign with rfl | rfl <;> decide

theorem sign_not_quote {c : Char} (sign : IsSign c) : ¬ IsQuote c := by
  rcases sign with rfl | rfl <;> simp [IsQuote]

theorem projectValue?_quote {q : Char} (quote : IsQuote q) (s : List Char) :
    projectValue? (q :: s) = some (((closed? q s).map quotedTag).getD .reference) := by
  have start : (q == '"' || q == '\'') = true := by
    rcases quote with rfl | rfl <;> rfl
  have given : (isBlank q || q == ',' || q == '}') = false := by
    rcases quote with rfl | rfl <;> decide
  simp only [projectValue?, start, given, Bool.false_eq_true, if_false, if_true]
  cases closed? q s <;> rfl

theorem projectValue?_bare {c : Char} (unquoted : ¬ IsQuote c) (s : List Char) :
    projectValue? (c :: s) =
      if isBlank c || c == ',' || c == '}' then none else some .reference := by
  have start : (c == '"' || c == '\'') = false := by
    simpa [IsQuote] using unquoted
  simp only [projectValue?, start, Bool.false_eq_true, if_false]

theorem projectValue?_eq_some {s : List Char} {tag : ProjectTag} :
    projectValue? s = some tag ↔ ValueReads s tag := by
  constructor
  · intro taken
    cases s with
    | nil => simp [projectValue?] at taken
    | cons c s =>
      by_cases quote : IsQuote c
      · rw [projectValue?_quote quote] at taken
        by_cases closes : c ∈ s
        · obtain ⟨value, rest, rfl, fresh⟩ := split_at_first closes
          rw [closed?_append fresh] at taken
          obtain rfl := Option.some.inj taken
          exact .closed quote fresh
        · rw [closed?_of_not_mem closes, Option.some.injEq] at taken
          subst taken
          exact .unclosed quote closes
      · rw [projectValue?_bare quote] at taken
        split at taken
        · simp at taken
        · rename_i given
          simp only [Bool.or_eq_true, beq_iff_eq, not_or, Bool.not_eq_true] at given
          obtain rfl := Option.some.inj taken
          exact .bare quote given.1.1 ⟨given.1.2, given.2⟩
  · intro reads
    cases reads with
    | closed quote fresh => simp [projectValue?_quote quote, closed?_append fresh]
    | unclosed quote unclosed => simp [projectValue?_quote quote, closed?_of_not_mem unclosed]
    | bare unquoted unblanked given =>
      simp [projectValue?_bare unquoted, unblanked, given]

theorem valueReads_unblanked {s : List Char} {tag : ProjectTag} (reads : ValueReads s tag) :
    Unblanked s := by
  cases reads with
  | closed quote => exact unblanked_cons.mpr (quote_not_blank quote)
  | unclosed quote => exact unblanked_cons.mpr (quote_not_blank quote)
  | bare unquoted unblanked => exact unblanked_cons.mpr unblanked

/-- One quote behind the key is passed over. -/
def skipMark : List Char → List Char
  | [] => []
  | c :: s => if c == '"' || c == '\'' then s else c :: s

theorem skipMark_quote {c : Char} (quote : IsQuote c) (s : List Char) : skipMark (c :: s) = s := by
  rcases quote with rfl | rfl <;> rfl

theorem skipMark_other {c : Char} (unquoted : ¬ IsQuote c) (s : List Char) :
    skipMark (c :: s) = c :: s := by
  have start : (c == '"' || c == '\'') = false := by
    simpa [IsQuote] using unquoted
  simp only [skipMark, start, Bool.false_eq_true, if_false]

def assignedValue? (s : List Char) : Option ProjectTag :=
  match skipBlank s with
  | c :: s => if c == '=' || c == ':' then projectValue? (skipBlank s) else none
  | [] => none

theorem assignedValue?_eq_some {s : List Char} {tag : ProjectTag} :
    assignedValue? s = some tag ↔ AssignedValue s tag := by
  constructor
  · intro taken
    unfold assignedValue? at taken
    obtain ⟨⟨gap, blank₁, split⟩, _⟩ := skipBlank_eq_iff.mp (rfl : skipBlank s = skipBlank s)
    split at taken
    · rename_i c r front
      split at taken
      · rename_i sign
        obtain ⟨⟨space, blank₂, inner⟩, _⟩ := skipBlank_eq_iff.mp (rfl : skipBlank r = skipBlank r)
        rw [split, front, inner]
        exact .mk blank₁ (by simpa [IsSign] using sign) blank₂ (projectValue?_eq_some.mp taken)
      · simp at taken
    · simp at taken
  · intro assigned
    obtain @⟨gap, space, value, sign, _, blank₁, isSign, blank₂, reads⟩ := assigned
    have start : (sign == '=' || sign == ':') = true := by
      simpa [IsSign] using isSign
    have front : skipBlank (gap ++ sign :: (space ++ value)) = sign :: (space ++ value) := by
      rw [skipBlank_append blank₁]
      exact skipBlank_unblanked (unblanked_cons.mpr (sign_not_blank isSign))
    have inner : skipBlank (space ++ value) = value := by
      rw [skipBlank_append blank₂]
      exact skipBlank_unblanked (valueReads_unblanked reads)
    simp only [assignedValue?, front, start, if_true, inner]
    exact projectValue?_eq_some.mpr reads

theorem skipMark_assigned {s : List Char} {tag : ProjectTag} (assigned : AssignedValue s tag) :
    skipMark s = s := by
  obtain @⟨gap, space, value, sign, _, blank₁, isSign, _, _⟩ := assigned
  cases gap with
  | nil => exact skipMark_other (sign_not_quote isSign) _
  | cons c gap =>
    apply skipMark_other
    intro quote
    have blank := (allBlank_cons.mp blank₁).1
    simp [quote_not_blank quote] at blank

theorem projectEntry?_eq (before : Option Char) (s : List Char) :
    projectEntry? before s = if before.any isWord then none
      else (after? "Project".toList s).bind fun s => assignedValue? (skipMark s) := by
  unfold projectEntry?
  cases before.any isWord with
  | true => rfl
  | false =>
    cases after? "Project".toList s with
    | none => rfl
    | some r =>
      cases r with
      | nil => rfl
      | cons c r => rfl

theorem projectEntry?_eq_some {before : Option Char} {s : List Char} {tag : ProjectTag} :
    projectEntry? before s = some tag ↔ ProjectAt before s tag := by
  rw [projectEntry?_eq]
  constructor
  · intro taken
    split at taken
    · simp at taken
    · rename_i apart
      rw [Bool.not_eq_true] at apart
      obtain ⟨r, key, assigned⟩ := Option.bind_eq_some_iff.mp taken
      obtain rfl := after?_eq_some.mp key
      rw [assignedValue?_eq_some] at assigned
      cases r with
      | nil => exact .bare apart assigned
      | cons c r =>
        by_cases quote : IsQuote c
        · rw [skipMark_quote quote] at assigned
          exact .quoted apart quote assigned
        · rw [skipMark_other quote] at assigned
          exact .bare apart assigned
  · intro stands
    cases stands with
    | bare apart assigned =>
      simp only [apart, Bool.false_eq_true, if_false, after?_append, Option.bind_some,
        skipMark_assigned assigned]
      exact assignedValue?_eq_some.mpr assigned
    | quoted apart quote assigned =>
      simp only [apart, Bool.false_eq_true, if_false, after?_append, Option.bind_some,
        skipMark_quote quote]
      exact assignedValue?_eq_some.mpr assigned

/-- The first place where the key is read decides what a text says. -/
theorem projectTag_eq_iff (text : String) (tag : ProjectTag) (given : tag ≠ .absent) :
    projectTag text = tag ↔ First ProjectAt none text.toList tag := by
  rw [first_iff_find? (p := projectEntry?) (fun _ _ _ => projectEntry?_eq_some), projectTag]
  cases find? projectEntry? none text.toList with
  | none => simp [Ne.symm given]
  | some found => simp

theorem project_word : Word "Project".toList :=
  ⟨by decide, List.all_eq_true.mp (by decide)⟩

theorem sign_not_word {c : Char} (sign : IsSign c) : isWord c = false := by
  rcases sign with rfl | rfl <;> decide

theorem assigned_starts {s : List Char} {tag : ProjectTag} (assigned : AssignedValue s tag) :
    ∃ c r, s = c :: r ∧ isWord c = false := by
  obtain @⟨gap, space, value, sign, _, blank₁, isSign, _, _⟩ := assigned
  cases gap with
  | nil => exact ⟨_, _, rfl, sign_not_word isSign⟩
  | cons c gap => exact ⟨_, _, rfl, blank_not_word (allBlank_cons.mp blank₁).1⟩

theorem projectAt_starts {before : Option Char} {s : List Char} {tag : ProjectTag}
    (stands : ProjectAt before s tag) :
    before.any isWord = false ∧ ∃ c r, s = "Project".toList ++ c :: r ∧ isWord c = false := by
  cases stands with
  | bare apart assigned =>
    obtain ⟨c, r, rfl, behind⟩ := assigned_starts assigned
    exact ⟨apart, c, r, rfl, behind⟩
  | quoted apart quote assigned => exact ⟨apart, _, _, rfl, quote_not_word quote⟩

/-- The key is not read in front of a place when it does not stand there as a word, and no word
reaches up to that place. -/
theorem find?_project_append {front s : List Char} (silent : ¬ Stands "Project".toList front)
    (apart : EndsApart front) :
    find? projectEntry? none (front ++ s) = find? projectEntry? front.getLast? s := by
  refine (find?_append ?_).trans (by rw [Option.or_none])
  intro u v split some
  rw [Option.or_none, Option.eq_none_iff_forall_ne_some]
  intro tag read
  obtain ⟨before, c, r, start, behind⟩ := projectAt_starts (projectEntry?_eq_some.mp read)
  obtain ⟨v, d, rfl⟩ := (List.eq_nil_or_concat v).resolve_left some
  have last : isWord d = false := by
    simpa [split, EndsApart] using apart
  apply silent
  rw [List.concat_eq_append, List.append_assoc, List.singleton_append] at start
  rcases List.append_eq_append_iff.mp start with ⟨x, key, rest⟩ | ⟨x, rfl, rest⟩
  · cases x with
    | nil =>
      rw [List.append_nil] at key
      exact ⟨u, [d], by simp [split, key], before, by simpa using last⟩
    | cons e x =>
      obtain ⟨rfl, _⟩ := List.cons.inj rest
      have word := project_word.2 d (by simp [key])
      simp [last] at word
  · refine ⟨u, x ++ [d], by simp [split], before, ?_⟩
    cases x with
    | nil => simpa using last
    | cons e x =>
      obtain ⟨rfl, _⟩ := List.cons.inj rest
      simpa using behind

theorem projectTag_absent {s : List Char} (silent : ¬ Stands "Project".toList s) :
    projectTag (.ofList s) = .absent := by
  apply Decidable.byContradiction
  intro given
  obtain ⟨u, v, split, stands⟩ := first_place ((projectTag_eq_iff (.ofList s) _ given).mp rfl)
  obtain ⟨before, c, r, rfl, behind⟩ := projectAt_starts stands
  rw [Option.or_none] at before
  have parts : s = u ++ ("Project".toList ++ c :: r) := String.toList_ofList.symm.trans split
  exact silent ⟨u, c :: r, by simp [parts], before, by simpa using behind⟩

theorem projectTag_at {front s : List Char} {tag : ProjectTag}
    (silent : ¬ Stands "Project".toList front) (apart : EndsApart front)
    (here : ProjectAt front.getLast? s tag) : projectTag (.ofList (front ++ s)) = tag := by
  have found := (find?_project_append silent apart).trans
    (find?_here (projectEntry?_eq_some.mpr here))
  have text : (String.ofList (front ++ s)).toList = front ++ s := String.toList_ofList
  rw [projectTag, text, found, Option.getD_some]

end InfraLint.Source
