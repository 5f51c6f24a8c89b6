import InfraLint.Pattern.Read
import InfraLint.Proofs.Pattern.Places
import InfraLint.Proofs.Source.BlockPattern
import InfraLint.Proofs.Source.ProjectKey
import Mathlib

/-!
Where a text says something about its project, and what. The first place decides where the pattern
for the `Project` key can be met; there is no way through the pattern at an earlier one. What is
said there depends on the first character of the value alone, and on whether it is a quote that is
closed.
-/
namespace InfraLint.Source
open Text Pattern

/-- `Project` as a word of its own, one quote at most behind it, and a sign in free white space.
`value` is the rest from the first character that is not white space; it is neither a comma nor a
closing brace. -/
structure KeyStarts (before : Option Char) (s value : List Char) : Prop where
  apart : before.any isWord = false
  leads : ∃ mark gap sign space, (mark = [] ∨ ∃ q, IsQuote q ∧ mark = [q]) ∧ AllBlank gap ∧
    IsSign sign ∧ AllBlank space ∧
      s = "Project".toList ++ (mark ++ (gap ++ sign :: (space ++ value)))
  given : ∃ c rest, value = c :: rest ∧ isBlank c = false ∧ c ≠ ',' ∧ c ≠ '}'

def KeyAt (text : List Char) (i : Nat) (value : List Char) : Prop :=
  KeyStarts (text.take i).getLast? (text.drop i) value

/-- A quote closed by the next one of its kind is a literal, unless an interpolation is in it.
Anything else is a reference. -/
inductive Says : List Char → ProjectTag → Prop where
  | literal {q : Char} {inner rest : List Char} (quote : IsQuote q) (fresh : q ∉ inner)
      (plain : isInterpolated (.ofList inner) = false) :
      Says (q :: (inner ++ q :: rest)) (.literal (.ofList inner))
  | reference {value : List Char}
      (other : ∀ q inner rest, value = q :: (inner ++ q :: rest) → IsQuote q → q ∉ inner →
        isInterpolated (.ofList inner) = true) : Says value .reference

inductive ProjectSaid (text : List Char) : ProjectTag → Prop where
  | absent (nowhere : ∀ i value, ¬ KeyAt text i value) : ProjectSaid text .absent
  | first {i : Nat} {value : List Char} {tag : ProjectTag} (here : KeyAt text i value)
      (earlier : ∀ j < i, ∀ value, ¬ KeyAt text j value) (meaning : Says value tag) :
      ProjectSaid text tag

variable {before : Option Char} {s value : List Char} {tag : ProjectTag}

/-! Values -/

theorem append_quote_inj {q : Char} {u v r t : List Char} (fresh : q ∉ u) (fresh' : q ∉ v)
    (same : u ++ q :: r = v ++ q :: t) : u = v ∧ r = t := by
  have front : u = v := by
    rw [← takeWhile_ne_append (r := r) fresh, same, takeWhile_ne_append fresh']
  subst front
  exact ⟨rfl, (List.cons.inj (List.append_cancel_left same)).2⟩

theorem says_quotedTag {q : Char} {inner rest : List Char} (quote : IsQuote q)
    (fresh : q ∉ inner) : Says (q :: (inner ++ q :: rest)) tag ↔ tag = quotedTag inner := by
  constructor
  · intro meaning
    generalize same : q :: (inner ++ q :: rest) = value at meaning
    cases meaning with
    | literal quote' fresh' plain =>
      obtain ⟨rfl, tail⟩ := List.cons.inj same
      obtain ⟨rfl, _⟩ := append_quote_inj fresh fresh' tail
      simp [quotedTag, plain]
    | reference other => simp [quotedTag, other _ _ _ same.symm quote fresh]
  · rintro rfl
    cases marked : isInterpolated (.ofList inner) with
    | false =>
      rw [quotedTag, marked]
      exact .literal quote fresh marked
    | true =>
      rw [quotedTag, marked]
      refine .reference fun q' inner' rest' same quote' fresh' => ?_
      obtain ⟨rfl, tail⟩ := List.cons.inj same
      obtain ⟨rfl, _⟩ := append_quote_inj fresh fresh' tail
      exact marked

theorem says_unclosed
    (unclosed : ∀ q inner rest, value = q :: (inner ++ q :: rest) → ¬ IsQuote q) :
    Says value tag ↔ tag = .reference := by
  constructor
  · intro meaning
    cases meaning with
    | literal quote => exact absurd quote (unclosed _ _ _ rfl)
    | reference other => rfl
  · rintro rfl
    exact .reference fun q inner rest same quote _ => absurd quote (unclosed q inner rest same)

theorem quote_given {q : Char} (quote : IsQuote q) :
    isBlank q = false ∧ q ≠ ',' ∧ q ≠ '}' := by
  refine ⟨quote_not_blank quote, ?_⟩
  rcases quote with rfl | rfl <;> decide

theorem valueReads_iff : ValueReads value tag ↔
    (∃ c rest, value = c :: rest ∧ isBlank c = false ∧ c ≠ ',' ∧ c ≠ '}') ∧ Says value tag := by
  constructor
  · intro reads
    cases reads with
    | closed quote fresh =>
      exact ⟨⟨_, _, rfl, quote_given quote⟩, (says_quotedTag quote fresh).mpr rfl⟩
    | unclosed quote unclosed =>
      refine ⟨⟨_, _, rfl, quote_given quote⟩, (says_unclosed ?_).mpr rfl⟩
      intro q inner rest same _
      obtain ⟨rfl, rfl⟩ := List.cons.inj same
      simp at unclosed
    | bare unquoted unblanked given =>
      refine ⟨⟨_, _, rfl, unblanked, given⟩, (says_unclosed ?_).mpr rfl⟩
      intro q inner rest same quote
      obtain ⟨rfl, _⟩ := List.cons.inj same
      exact unquoted quote
  · rintro ⟨⟨c, rest, rfl, unblanked, given⟩, meaning⟩
    by_cases quote : IsQuote c
    · by_cases closes : c ∈ rest
      · obtain ⟨inner, behind, rfl, fresh⟩ := split_at_first closes
        obtain rfl := (says_quotedTag quote fresh).mp meaning
        exact .closed quote fresh
      · have unclosed : ∀ q inner rest', c :: rest = q :: (inner ++ q :: rest') → ¬ IsQuote q := by
          intro q inner rest' same _
          obtain ⟨rfl, rfl⟩ := List.cons.inj same
          simp at closes
        obtain rfl := (says_unclosed unclosed).mp meaning
        exact .unclosed quote closes
    · have unclosed : ∀ q inner rest', c :: rest = q :: (inner ++ q :: rest') → ¬ IsQuote q := by
        intro q inner rest' same
        obtain ⟨rfl, _⟩ := List.cons.inj same
        exact quote
      obtain rfl := (says_unclosed unclosed).mp meaning
      exact .bare quote unblanked given

theorem projectAt_iff : ProjectAt before s tag ↔
    ∃ value, KeyStarts before s value ∧ Says value tag := by
  constructor
  · intro stands
    cases stands with
    | bare apart assigned =>
      obtain ⟨blank₁, isSign, blank₂, reads⟩ := assigned
      obtain ⟨given, meaning⟩ := valueReads_iff.mp reads
      refine ⟨_, ⟨apart, ?_, given⟩, meaning⟩
      exact ⟨[], _, _, _, .inl rfl, blank₁, isSign, blank₂, rfl⟩
    | quoted apart quote assigned =>
      obtain ⟨blank₁, isSign, blank₂, reads⟩ := assigned
      obtain ⟨given, meaning⟩ := valueReads_iff.mp reads
      refine ⟨_, ⟨apart, ?_, given⟩, meaning⟩
      exact ⟨[_], _, _, _, .inr ⟨_, quote, rfl⟩, blank₁, isSign, blank₂, rfl⟩
  · rintro ⟨value, ⟨apart, ⟨mark, gap, sign, space, marked, blank₁, isSign, blank₂, rfl⟩, given⟩,
      meaning⟩
    have assigned : AssignedValue (gap ++ sign :: (space ++ value)) tag :=
      .mk blank₁ isSign blank₂ (valueReads_iff.mpr ⟨given, meaning⟩)
    rcases marked with rfl | ⟨q, quote, rfl⟩
    · exact .bare apart assigned
    · exact .quoted apart quote assigned

/-! The pattern -/

def projectPatternText : String :=
  "\\bProject[\"']?\\s*[=:]\\s*(?:\"([^\"]*)\"|'([^']*)'|([^\\s,\x7d]+))"

/- Any text between two quotes `q`, the empty one too. -/
def betweenQuotes (q : Char) : Pattern :=
  .seq (.chars (.one q)) (.seq (.star (.chars (.negated (.one q)))) (.chars (.one q)))

def bareClass : CharClass := .negated (.ofList [.blank, .one ',', .one '}'])

def valuePattern : Pattern :=
  .alt (.alt (betweenQuotes '"') (betweenQuotes '\''))
    (.seq (.chars bareClass) (.star (.chars bareClass)))

def projectPattern : Pattern :=
  .seq (.anchor (.wordEdge false)) <| spelled "Project".toList <|
    .seq (upTo (.chars (.ofList [.one '"', .one '\''])) 1) <| freeBlanks <|
      .seq (.chars (.ofList [.one '=', .one ':'])) <| freeBlanks valuePattern

set_option maxRecDepth 30000 in
theorem projectPattern_read (table : PropertyTable) :
    Pattern.read? table projectPatternText = some projectPattern := by
  cbv

theorem contains_either {a b c : Char} :
    (CharClass.ofList [.one a, .one b]).contains c = true ↔ c = a ∨ c = b := by
  simp only [contains_ofList, List.any_cons, List.any_nil, Bool.or_false, Bool.or_eq_true,
    contains_one]

theorem contains_bareClass {c : Char} :
    bareClass.contains c = true ↔ isBlank c = false ∧ c ≠ ',' ∧ c ≠ '}' := by
  simp only [bareClass, CharClass.contains, contains_ofList, List.any_cons, List.any_nil,
    Bool.or_false, Bool.not_eq_true', Bool.or_eq_false_iff]
  simp only [← Bool.not_eq_true (CharClass.contains _ _), contains_one]

theorem takes_wordEdge {before after : List Char} {c : Char} (word : isWord c = true)
    (taken : Takes (.anchor (.wordEdge false)) before s (c :: after)) :
    s = [] ∧ before.head?.any isWord = false := by
  obtain ⟨rfl, holds⟩ := takes_anchor.mp taken
  exact ⟨rfl, by simpa [Anchor.holds, besideWord, word] using holds⟩

/-- The pattern has a value to take wherever one starts. Its last part takes any character that may
stand there, a quote too. -/
theorem takes_valuePattern {before after : List Char} (taken : Takes valuePattern before s after) :
    ∃ c rest, s ++ after = c :: rest ∧ isBlank c = false ∧ c ≠ ',' ∧ c ≠ '}' := by
  simp only [valuePattern, betweenQuotes, takes_alt, takes_seq (p := .chars _), takes_chars,
    contains_one, contains_bareClass] at taken
  obtain ((⟨_, _, rfl, ⟨c, rfl, quote⟩, _⟩ | ⟨_, _, rfl, ⟨c, rfl, quote⟩, _⟩) |
    ⟨_, _, rfl, ⟨c, rfl, given⟩, _⟩) := taken
  · exact ⟨c, _, rfl, quote_given (.inl quote)⟩
  · exact ⟨c, _, rfl, quote_given (.inr quote)⟩
  · exact ⟨c, _, rfl, given⟩

theorem takes_projectPattern {before : List Char} :
    (∃ taken after, s = taken ++ after ∧ Takes projectPattern before taken after) ↔
      ∃ value, KeyStarts before.head? s value := by
  constructor
  · rintro ⟨_, after, rfl, taken⟩
    simp only [projectPattern, takes_seq (p := .anchor _), takes_seq (p := upTo _ _),
      takes_seq (p := .chars _), takes_spelled, takes_freeBlanks, takes_upTo_one, takes_chars,
      contains_either] at taken
    obtain ⟨_, _, rfl, edge, _, rfl, mark, _, rfl, marked, gap, _, rfl, blank₁, _, _, rfl,
      ⟨sign, rfl, isSign⟩, space, value, rfl, blank₂, reads⟩ := taken
    obtain ⟨rfl, apart⟩ := takes_wordEdge (by decide) edge
    refine ⟨value ++ after, apart, ?_, takes_valuePattern reads⟩
    refine ⟨mark, gap, sign, space, ?_, blank₁, isSign, blank₂, by simp⟩
    exact marked.imp_right fun ⟨q, same, quote⟩ => ⟨q, quote, same⟩
  · rintro ⟨_, apart, ⟨mark, gap, sign, space, marked, blank₁, isSign, blank₂, rfl⟩,
      c, rest, rfl, given⟩
    have value (b : List Char) : Takes valuePattern b [c] rest :=
      .right (.seq (.chars (contains_bareClass.mpr given)) .stop)
    have assigned (b : List Char) : Takes (freeBlanks (.seq (.chars (.ofList [.one '=', .one ':']))
        (freeBlanks valuePattern))) b (gap ++ sign :: (space ++ [c])) rest :=
      takes_freeBlanks.mpr ⟨_, _, rfl, blank₁, .seq (s := [sign])
        (.chars (contains_either.mpr isSign)) (takes_freeBlanks.mpr ⟨_, _, rfl, blank₂, value _⟩)⟩
    have marks (b after : List Char) :
        Takes (upTo (.chars (.ofList [.one '"', .one '\''])) 1) b mark after := by
      refine takes_upTo_one.mpr (marked.imp_right ?_)
      rintro ⟨q, quote, same⟩
      exact ⟨q, same, contains_either.mpr quote⟩
    have edge : (Anchor.wordEdge false).holds before.head? (some 'P') = true := by
      have word : isWord 'P' = true := by decide
      simpa [Anchor.holds, besideWord, word] using apart
    refine ⟨"Project".toList ++ (mark ++ (gap ++ sign :: (space ++ [c]))), rest, by simp, ?_⟩
    exact .seq (s := []) (.anchor edge) (takes_spelled.mpr ⟨_, rfl, .seq (marks _ _) (assigned _)⟩)

/-! Texts -/

theorem keyAt_inside {text : List Char} {i : Nat} (here : KeyAt text i value) :
    i ≤ text.length := by
  obtain ⟨mark, gap, sign, space, _, _, _, _, split⟩ := here.leads
  have lengths := congrArg List.length split
  simp only [List.length_drop, List.length_append, List.length_cons] at lengths
  omega

theorem keyAt_iff_met {text : List Char} {i : Nat} :
    (∃ j, projectPattern.TakesAt text i j) ↔ ∃ value, KeyAt text i value := by
  have met (inside : i ≤ text.length) : (∃ j, projectPattern.TakesAt text i j) ↔
      ∃ value, KeyAt text i value := by
    rw [exists_takesAt_iff inside, takes_projectPattern, List.head?_reverse]
    rfl
  constructor
  · rintro ⟨j, stands⟩
    exact (met (stands.order.trans stands.inside)).mp ⟨j, stands⟩
  · rintro ⟨value, here⟩
    exact (met (keyAt_inside here)).mpr ⟨value, here⟩

theorem says_given (meaning : Says value tag) : tag ≠ .absent := by
  rintro rfl
  cases meaning

theorem exists_says (value : List Char) : ∃ tag, Says value tag := by
  by_cases closes : ∃ q inner rest, value = q :: (inner ++ q :: rest) ∧ IsQuote q ∧ q ∉ inner
  · obtain ⟨q, inner, rest, rfl, quote, fresh⟩ := closes
    exact ⟨_, (says_quotedTag quote fresh).mpr rfl⟩
  · exact ⟨_, .reference fun q inner rest same quote fresh =>
      absurd ⟨q, inner, rest, same, quote, fresh⟩ closes⟩

theorem first_projectAt_iff {text : List Char} : First ProjectAt none text tag ↔
    ∃ i value, KeyAt text i value ∧ (∀ j < i, ∀ value, ¬ KeyAt text j value) ∧ Says value tag := by
  simp only [first_iff_place, Option.or_none, projectAt_iff]
  constructor
  · rintro ⟨i, _, ⟨value, here, meaning⟩, earlier⟩
    refine ⟨i, value, here, ?_, meaning⟩
    intro j order value' there
    obtain ⟨tag', meaning'⟩ := exists_says value'
    exact earlier j order tag' ⟨value', there, meaning'⟩
  · rintro ⟨i, value, here, earlier, meaning⟩
    refine ⟨i, keyAt_inside here, ⟨value, here, meaning⟩, ?_⟩
    rintro j order _ ⟨value', there, _⟩
    exact earlier j order value' there

theorem projectTag_eq_absent_iff {text : String} :
    projectTag text = .absent ↔ ∀ i value, ¬ KeyAt text.toList i value := by
  constructor
  · intro absent i value here
    have stands : ∃ i value, KeyAt text.toList i value := ⟨i, value, here⟩
    classical
    obtain ⟨value, first⟩ := Nat.find_spec stands
    obtain ⟨tag, meaning⟩ := exists_says value
    have earlier : ∀ j < Nat.find stands, ∀ value, ¬ KeyAt text.toList j value :=
      fun j order value there => Nat.find_min stands order ⟨value, there⟩
    have given := says_given meaning
    have read := (projectTag_eq_iff text tag given).mpr
      (first_projectAt_iff.mpr ⟨_, value, first, earlier, meaning⟩)
    exact given (read.symm.trans absent)
  · intro nowhere
    by_contra given
    obtain ⟨i, value, here, _⟩ :=
      first_projectAt_iff.mp ((projectTag_eq_iff text _ given).mp rfl)
    exact nowhere i value here

theorem projectTag_eq_iff_said {text : String} :
    projectTag text = tag ↔ ProjectSaid text.toList tag := by
  by_cases given : tag = .absent
  · subst given
    rw [projectTag_eq_absent_iff]
    constructor
    · exact .absent
    · intro said
      cases said with
      | absent nowhere => exact nowhere
      | first _ _ meaning => exact absurd rfl (says_given meaning)
  · rw [projectTag_eq_iff text tag given, first_projectAt_iff]
    constructor
    · rintro ⟨i, value, here, earlier, meaning⟩
      exact .first here earlier meaning
    · intro said
      cases said with
      | absent => exact absurd rfl given
      | first here earlier meaning => exact ⟨_, _, here, earlier, meaning⟩

/- The literal stands in the text between two quotes that are not in it. -/
theorem literal_quoted {text : List Char} {name : String}
    (said : ProjectSaid text (.literal name)) : isInterpolated name = false ∧
      ∃ q, IsQuote q ∧ q ∉ name.toList ∧
        ∃ front behind, text = front ++ (q :: (name.toList ++ [q])) ++ behind := by
  cases said with
  | @first i _ _ here _ meaning =>
    cases meaning with
    | @literal q inner rest quote fresh plain =>
      have inside : (String.ofList inner).toList = inner := String.toList_ofList
      rw [inside]
      refine ⟨plain, q, quote, fresh, ?_⟩
      obtain ⟨mark, gap, sign, space, _, _, _, _, split⟩ := here.leads
      refine ⟨text.take i ++ "Project".toList ++ mark ++ gap ++ sign :: space, rest, ?_⟩
      have whole : text = text.take i ++ text.drop i := (List.take_append_drop i text).symm
      rw [split] at whole
      simpa only [List.append_assoc, List.cons_append, List.nil_append] using whole

/-- The tag is read off the first place where the key stands, and there the pattern can be met and
nowhere else. A literal holds neither an interpolation nor the quotes around it. -/
theorem projectTag_eq_first_key (text : String) :
    (∀ tag, projectTag text = tag ↔ ProjectSaid text.toList tag) ∧
    (∃ p, (∀ table, Pattern.read? table projectPatternText = some p) ∧ ∀ i,
      (∃ j, p.TakesAt text.toList i j) ↔ ∃ value, KeyAt text.toList i value) ∧
    ∀ name, projectTag text = .literal name → isInterpolated name = false ∧
      ∃ q, IsQuote q ∧ q ∉ name.toList ∧
        ∃ front behind, text.toList = front ++ (q :: (name.toList ++ [q])) ++ behind := by
  refine ⟨fun _ => projectTag_eq_iff_said, ?_, ?_⟩
  · exact ⟨projectPattern, projectPattern_read, fun _ => keyAt_iff_met⟩
  · intro name read
    exact literal_quoted (projectTag_eq_iff_said.mp read)

/- The first key is part of a longer word and says nothing. The literal of the second one has quotes
   of the other kind in it. -/
def laterKey : String := "MyProject = \"A\"\nProject' : 'Data \"Hub\"' # Project = \"B\""

theorem laterKey_said :
    ProjectSaid laterKey.toList (.literal "Data \"Hub\"") ∧
      ¬ ProjectSaid laterKey.toList .absent ∧
      ∃ q, IsQuote q ∧ q ∉ "Data \"Hub\"".toList ∧
        ∃ front behind, laterKey.toList =
          front ++ (q :: ("Data \"Hub\"".toList ++ [q])) ++ behind := by
  have read : projectTag laterKey = .literal "Data \"Hub\"" := by decide +kernel
  obtain ⟨said, -, literal⟩ := projectTag_eq_first_key laterKey
  refine ⟨(said _).mp read, ?_, (literal _ read).2⟩
  rw [← said, read]
  nofun

end InfraLint.Source
