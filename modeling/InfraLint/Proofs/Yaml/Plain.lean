import InfraLint.Proofs.Yaml.Gap

/-!
Plain texts. They hold no breaks and no indicators, so a plain scalar goes on to the end of its
line and stops at the next line, which is not indented enough to belong to it.
-/
namespace InfraLint.Yaml
open Layout (spaces isSpace isPrintable startsWithIndicator holdsIndicator startsOrEnds allowsPlain)

variable {cs s run : List Char} {fuel k : Nat} {indent : Int} {before : Gap} {c : Cursor}

/-! Indicators -/

theorem holdsIndicator_append {u v : List Char} (none : holdsIndicator (u ++ v) = false) :
    holdsIndicator v = false := by
  induction u with
  | nil => exact none
  | cons c u ih => exact ih (Bool.or_eq_false_iff.mp none).2

theorem atGap_append {u v : List Char} (inside : atGap u = false) : atGap (u ++ v) = false := by
  cases u with
  | nil => exact absurd inside (by decide)
  | cons c u => exact inside

theorem colon_behind {u v : List Char} (none : holdsIndicator (u ++ ':' :: v) = false) :
    atGap v = false := by
  have here := holdsIndicator_append none
  simp only [holdsIndicator, Bool.or_eq_false_iff, Bool.and_eq_false_iff] at here
  simpa using here.1.1

theorem hash_behind {u v : List Char} (none : holdsIndicator (u ++ ' ' :: v) = false) :
    v.head? ≠ some '#' := by
  have here := holdsIndicator_append none
  have blank : isBlank ' ' = true := by decide
  simp only [holdsIndicator, blank, Bool.or_eq_false_iff, Bool.true_or, Bool.true_and] at here
  simpa using here.1.2

/-! Runs -/

theorem plainRun?_run (inRun : ∀ c ∈ run, IsSolid c)
    (colons : ∀ u v, run = u ++ ':' :: v → atGap (v ++ s) = false)
    (stop : plainRun? false s = some []) : plainRun? false (run ++ s) = some run := by
  induction run with
  | nil => exact stop
  | cons c run ih =>
    obtain ⟨⟨blank, break_⟩, others⟩ := List.forall_mem_cons.mp inRun
    have rest := ih others fun u v split => colons (c :: u) v (by rw [split]; rfl)
    have inside : (c == ':' && atGap (run ++ s)) = false := by
      rw [Bool.and_eq_false_imp]
      intro colon
      exact colons [] run (by rw [eq_of_beq colon]; rfl)
    simp [plainRun?, blank, break_, inside, rest]

/-! From run to run -/

/-- Behind a run the scalar ends at an indicator and goes on at a gap, unless the gap leads to a
line that is not indented enough. -/
theorem plainFrom?_run {m : Mark} {x : Char} (inside : (⟨m, run ++ x :: s⟩ : Cursor).atEdge = false)
    (given : run ≠ []) (hash : run.head? ≠ some '#')
    (read : plainRun? false (run ++ x :: s) = some run) :
    plainFrom? false indent (fuel + 1) before ⟨m, run ++ x :: s⟩ =
      if IsSolid x then some (before.folded ++ run, ⟨m.right run.length, x :: s⟩, false)
      else (gap? indent ((x :: s).length + 1) false ⟨m.right run.length, x :: s⟩).bind fun (g, c) =>
        if c.mark.column < indent then some (before.folded ++ run, c, !g.breaks.isEmpty)
        else (plainFrom? false indent fuel g c).bind fun (more, c, ended) =>
          some (before.folded ++ run ++ more, c, ended) := by
  obtain ⟨r, run, rfl⟩ := List.exists_cons_of_ne_nil given
  have noHash : r ≠ '#' := by simpa using hash
  simp only [List.cons_append] at inside read
  by_cases solid : IsSolid x
  · simp [plainFrom?, inside, noHash, read, Cursor.right, solid.1, solid.2, solid]
  · have gapped : ¬ (isBlank x = false ∧ isBreak x = false) := solid
    simp [plainFrom?, inside, noHash, read, Cursor.right, gapped, solid]

structure OneLine (cs : List Char) : Prop where
  unbroken : ∀ c ∈ cs, isBreak c = false
  given : cs ≠ []
  first : Ungapped cs
  hash : cs.head? ≠ some '#'
  last : cs.getLast? ≠ some ' '
  colons : holdsIndicator cs = false

theorem OneLine.read {rest : List Char} (line : OneLine cs) (split : cs = run ++ rest)
    (inRun : ∀ c ∈ run, IsSolid c) (stop : plainRun? false (rest ++ s) = some []) :
    plainRun? false (run ++ (rest ++ s)) = some run := by
  refine plainRun?_run inRun (fun u v split' => ?_) stop
  have whole : cs = u ++ ':' :: (v ++ rest) := by rw [split, split']; simp
  have inside := colon_behind (whole ▸ line.colons)
  rw [← List.append_assoc]
  exact atGap_append inside

theorem OneLine.next {gap rest : List Char} (line : OneLine (run ++ (gap ++ rest)))
    (isGap : IsGap IsSolid gap) (behind : Ungapped rest) :
    run ≠ [] ∧ (∃ n, gap = spaces (n + 1)) ∧ OneLine rest := by
  have isSpaces : ∀ c ∈ gap, c = ' ' := by
    refine isGap.uniform.resolve_right fun areBreaks => ?_
    obtain ⟨b, bs, rfl⟩ := List.exists_cons_of_ne_nil isGap.given
    have solid := line.unbroken b (by simp)
    rw [isBreak_of_plain (areBreaks b (by simp))] at solid
    exact Bool.noConfusion solid
  obtain ⟨n, rfl⟩ := spaces_of_forall isGap.given isSpaces
  have given : rest ≠ [] := by
    rintro rfl
    refine line.last ?_
    simp [spaces, List.replicate_succ']
  refine ⟨?_, ⟨n, rfl⟩, ?_⟩
  · rintro rfl
    have solid := line.first ' ' (by simp [spaces_succ])
    exact absurd solid.1 (by decide)
  · have split : run ++ (spaces (n + 1) ++ rest) = (run ++ spaces n) ++ ' ' :: rest := by
      simp [spaces, List.replicate_succ']
    refine ⟨fun c member => line.unbroken c (by simp [member]), given, behind, ?_, ?_, ?_⟩
    · exact hash_behind (split ▸ line.colons)
    · intro ends
      exact line.last (by simp [List.getLast?_append, ends])
    · exact holdsIndicator_append (holdsIndicator_append line.colons)

/-- Up to the end of its line such a text is a scalar, if the next line is not indented enough. -/
theorem plainFrom?_line {body : List Char} {m : Mark} (parted : Parted IsSolid cs)
    (line : OneLine cs) (inside : indent ≤ m.column)
    (outside : (k : Int) < indent) (ungapped : Ungapped body) (room : cs.length < fuel) :
    ∃ c, plainFrom? false indent fuel before ⟨m, cs ++ '\n' :: (spaces k ++ body)⟩ =
      some (before.folded ++ cs, c, true) ∧ c.rest = body ∧ c.mark.column = k := by
  have noEdge {m : Mark} (inside : indent ≤ m.column) (s : List Char) :
      (⟨m, s⟩ : Cursor).atEdge = false := by
    have column : m.column ≠ 0 := by omega
    simp [Cursor.atEdge, column]
  induction parted generalizing fuel m before with
  | @last run inRun =>
    obtain ⟨fuel, rfl⟩ : ∃ k, fuel = k + 1 := ⟨fuel - 1, by omega⟩
    have feed : ¬ IsSolid '\n' := by decide
    have read : plainRun? false (run ++ '\n' :: (spaces k ++ body)) = some run :=
      line.read (List.append_nil run).symm inRun (by simp [plainRun?, isBreak])
    obtain ⟨c, gap, rest, column⟩ : ∃ c, gap? indent (('\n' :: (spaces k ++ body)).length + 1) false
        ⟨m.right run.length, ['\n'] ++ (spaces k ++ body)⟩ = some (⟨[], ['\n']⟩, c) ∧
          c.rest = body ∧ c.mark.column = k :=
      gap?_breaks (by simp [IsPlainBreak]) (by simp) ungapped (by simp [spaces]; omega)
    refine ⟨c, ?_, rest, column⟩
    rw [plainFrom?_run (noEdge inside _) line.given line.hash read, if_neg feed]
    rw [List.singleton_append] at gap
    rw [gap]
    simp [column, outside]
  | @next run gap rest inRun isGap behind parted ih =>
    obtain ⟨fuel, rfl⟩ : ∃ k, fuel = k + 1 := ⟨fuel - 1, by omega⟩
    obtain ⟨given, ⟨n, rfl⟩, lineBehind⟩ := line.next isGap behind
    have text : run ++ (spaces (n + 1) ++ rest) ++ '\n' :: (spaces k ++ body) =
        run ++ ' ' :: (spaces n ++ (rest ++ '\n' :: (spaces k ++ body))) := by
      simp [spaces_succ]
    have space : ¬ IsSolid ' ' := by decide
    have read : plainRun? false (run ++ ' ' :: (spaces n ++ (rest ++ '\n' :: (spaces k ++ body)))) =
        some run := by
      rw [← text, List.append_assoc]
      exact line.read rfl inRun (by simp [plainRun?, isBlank, spaces_succ])
    have hash : run.head? ≠ some '#' := by
      intro first
      exact line.hash (by simp [List.head?_append, first])
    have enough :
        n + 1 < (' ' :: (spaces n ++ (rest ++ '\n' :: (spaces k ++ body)))).length + 1 := by
      simp only [List.length_cons, List.length_append, spaces, List.length_replicate]
      omega
    have gap : gap? indent ((' ' :: (spaces n ++ (rest ++ '\n' :: (spaces k ++ body)))).length + 1)
        false ⟨m.right run.length, ' ' :: (spaces n ++ (rest ++ '\n' :: (spaces k ++ body)))⟩ =
          some (⟨spaces (n + 1), []⟩, ⟨(m.right run.length).right (n + 1),
            rest ++ '\n' :: (spaces k ++ body)⟩) :=
      gap?_spaces (ungapped_append lineBehind.given behind) enough
    have within : indent ≤ (((m.right run.length).right (n + 1)).column : Int) := by
      simp only [Mark.right]
      omega
    have shorter : rest.length < fuel := by
      simp only [List.length_append, spaces, List.length_replicate] at room
      omega
    obtain ⟨c, readBehind, restBehind, column⟩ : ∃ c, plainFrom? false indent fuel
        ⟨spaces (n + 1), []⟩ ⟨(m.right run.length).right (n + 1),
          rest ++ '\n' :: (spaces k ++ body)⟩ =
            some (spaces (n + 1) ++ rest, c, true) ∧ c.rest = body ∧ c.mark.column = k :=
      ih lineBehind within shorter
    refine ⟨c, ?_, restBehind, column⟩
    rw [text, plainFrom?_run (noEdge inside _) given hash read, if_neg space, gap]
    simp only [Option.bind_some, if_neg (Int.not_lt.mpr within), readBehind, List.append_assoc]

/-! Texts that may be written plain -/

def indicators : List Char := ",[]\x7b\x7d#&*!|>'\"%@\x60".toList

theorem not_startsWithIndicator {c : Char} (none : startsWithIndicator (c :: cs) = false) :
    c ∉ indicators ∧ (c = '-' ∨ c = '?' ∨ c = ':' → atGap cs = false) := by
  unfold startsWithIndicator at none
  split at none
  · exact Bool.noConfusion none
  · exact Bool.noConfusion none
  · rename_i same
    obtain ⟨rfl, rfl⟩ := List.cons.inj same
    rw [Bool.or_eq_false_iff, Bool.and_eq_false_imp] at none
    have order : List.Perm indicators "#,[]\x7b\x7d&*!|>'\"%@\x60".toList := by decide
    refine ⟨fun member => ?_, fun alone => none.2 ?_⟩
    · have listed := List.contains_iff_mem.mpr (order.mem_iff.mp member)
      rw [none.1] at listed
      exact Bool.noConfusion listed
    · rcases alone with rfl | rfl | rfl <;> decide
  · rename_i same
    exact absurd same (List.cons_ne_nil c cs)

theorem oneLine_of_allowsPlain (allowed : allowsPlain cs = true) (given : cs ≠ []) :
    OneLine cs ∧ Parted IsSolid cs := by
  simp only [allowsPlain, Bool.and_eq_true, Bool.not_eq_true', List.all_eq_true,
    List.any_eq_false, Bool.not_eq_true] at allowed
  obtain ⟨⟨⟨⟨printable, unbroken⟩, edges⟩, indicator⟩, colons⟩ := allowed
  have isSpace_of_hollow : ∀ c ∈ cs, ¬ IsSolid c → c = ' ' := by
    intro c member hollow
    refine eq_space_of_printable (printable c member) ?_
    rw [← Bool.not_eq_false]
    exact fun blank => hollow ⟨blank, unbroken c member⟩
  simp only [startsOrEnds, Bool.or_eq_false_iff] at edges
  obtain ⟨c, rest, rfl⟩ := List.exists_cons_of_ne_nil given
  refine ⟨⟨unbroken, given, ?_, ?_, ?_, colons⟩, ?_⟩
  · rw [ungapped_cons]
    refine Decidable.byContradiction fun hollow => ?_
    have space := isSpace_of_hollow c (by simp) hollow
    simp [space, isSpace] at edges
  · intro hash
    obtain rfl : c = '#' := by simpa using hash
    exact (not_startsWithIndicator indicator).1 (by decide)
  · intro ends
    have last := edges.2
    rw [ends] at last
    exact absurd last (by decide)
  · refine parted_of_alike (fun x member => ?_) fun u a b v split hollowA hollowB => ?_
    · by_cases solid : IsSolid x
      · exact Or.inl solid
      · exact Or.inr ⟨solid, Or.inl (isSpace_of_hollow x member solid)⟩
    · have isA : a ∈ c :: rest := by simp [split]
      have isB : b ∈ c :: rest := by simp [split]
      simp [isSpace_of_hollow a isA hollowA, isSpace_of_hollow b isB hollowB]

theorem plain?_line {body : List Char} {m : Mark} (allowed : allowsPlain cs = true)
    (given : cs ≠ []) (inside : indent < m.column) (outside : (k : Int) ≤ indent)
    (ungapped : Ungapped body) :
    ∃ c, plain? false indent ⟨m, cs ++ '\n' :: (spaces k ++ body)⟩ = some (.ofList cs, c, true) ∧
      c.rest = body ∧ c.mark.column = k := by
  obtain ⟨line, parted⟩ := oneLine_of_allowsPlain allowed given
  have room : cs.length < (cs ++ '\n' :: (spaces k ++ body)).length + 1 := by
    simp only [List.length_append]
    omega
  obtain ⟨c, read, rest, column⟩ : ∃ c, plainFrom? false (indent + 1) _ {}
      ⟨m, cs ++ '\n' :: (spaces k ++ body)⟩ = some (cs, c, true) ∧ c.rest = body ∧
        c.mark.column = k :=
    plainFrom?_line parted line (Int.add_one_le_iff.mpr inside) (Int.lt_add_one_iff.mpr outside)
      ungapped room
  exact ⟨c, by simp only [plain?, read]; rfl, rest, column⟩

theorem plain?_key {m : Mark} (inRun : ∀ c ∈ run, IsSolid c ∧ c ≠ ':') (given : run ≠ [])
    (hash : run.head? ≠ some '#') (gap : atGap s = true)
    (inside : (⟨m, run ++ ':' :: s⟩ : Cursor).atEdge = false) :
    plain? false indent ⟨m, run ++ ':' :: s⟩ =
      some (.ofList run, ⟨m.right run.length, ':' :: s⟩, false) := by
  have colon : IsSolid ':' := by decide
  have read : plainRun? false (run ++ ':' :: s) = some run := by
    refine plainRun?_run (fun c member => (inRun c member).1) (fun u v split => ?_) ?_
    · exact absurd rfl (inRun ':' (by simp [split])).2
    · simp [plainRun?, colon.1, colon.2, gap]
  rw [plain?, plainFrom?_run inside given hash read, if_pos colon]
  rfl

end InfraLint.Yaml
