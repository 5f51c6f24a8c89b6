import InfraLint.Command.Arguments

/-!
The flag for JSON among the arguments. It is an argument of its own wherever it stands in front of
the double hyphen, so it can be left out, and what is asked for stays the same otherwise.
-/
namespace InfraLint.Command

/-- The arguments without the flag. Behind a double hyphen it would be a file. -/
def withoutJson : List String → List String
  | [] => []
  | argument :: rest =>
    if argument = "--" then argument :: rest
    else if argument = "--json" then withoutJson rest
    else argument :: withoutJson rest

theorem withoutJson_keeps {argument : String} (notEscape : formOf argument ≠ .escape)
    (notFlag : formOf argument ≠ .long "json" none) (rest : List String) :
    withoutJson (argument :: rest) = argument :: withoutJson rest := by
  have other : argument ≠ "--" ∧ argument ≠ "--json" := by
    constructor
    · rintro rfl
      exact notEscape rfl
    · rintro rfl
      exact notFlag rfl
  rw [withoutJson, if_neg other.1, if_neg other.2]

theorem formOf_eq_escape {argument : String} (form : formOf argument = .escape) :
    argument = "--" := by
  unfold formOf at form
  split at form
  · rename_i letters
    exact String.toList_inj.mp letters
  · split at form <;> cases form
  · cases form
  · cases form

theorem formOf_eq_json {argument : String} (form : formOf argument = .long "json" none) :
    argument = "--json" := by
  unfold formOf at form
  split at form
  · cases form
  · rename_i s _ letters
    split at form
    · simp at form
    · rename_i rest
      have all : s.takeWhile (· ≠ '=') = s := by
        have parts := List.takeWhile_append_dropWhile (p := (· ≠ '=')) (l := s)
        rwa [rest, List.append_nil] at parts
      rw [all] at form
      have name : String.ofList s = "json" := by simpa using form
      have word : s = "json".toList := by rw [← name, String.toList_ofList]
      exact String.toList_inj.mp (letters.trans (by rw [word]; rfl))
  · cases form
  · cases form

theorem withoutJson_value {value : String} (plain : ¬ looksLikeOption value = true)
    (rest : List String) : withoutJson (value :: rest) = value :: withoutJson rest := by
  apply withoutJson_keeps
  · intro form
    rw [formOf_eq_escape form] at plain
    exact plain rfl
  · intro form
    rw [formOf_eq_json form] at plain
    exact plain rfl

variable {level : Level} {g g' : Given} {json : Bool}

theorem addValue_json {o : Option_} {value : String} (added : g.addValue o value = .ok g') :
    Given.addValue o value { g with json := json } = .ok { g' with json := json } := by
  simp only [Given.addValue] at added ⊢
  generalize (if o.isPath then value.isEmpty else !Native.isUtf8 value) = refused at added ⊢
  split at added
  · cases added
  · rename_i fits
    cases added
    exact if_neg fits

theorem addFile_json {file : String} (added : g.addFile level file = .ok g') :
    Given.addFile level file { g with json := json } = .ok { g' with json := json } := by
  unfold Given.addFile at added ⊢
  split at added
  · cases added
  · rename_i fits
    cases added
    exact if_neg fits

theorem addFiles_json {files : List String}
    (added : files.foldlM (fun g file => g.addFile level file) g = .ok g') :
    files.foldlM (fun g file => Given.addFile level file g) { g with json := json } =
      .ok { g' with json := json } := by
  induction files generalizing g with
  | nil =>
    cases added
    rfl
  | cons file files ih =>
    rw [List.foldlM_cons] at added ⊢
    cases first : g.addFile level file with
    | error e => simp [first, bind, Except.bind] at added
    | ok next =>
      rw [first] at added
      rw [addFile_json first]
      exact ih added

theorem bind_eq_ok {ε α β : Type} {x : Except ε α} {f : α → Except ε β} {b : β} :
    x >>= f = .ok b ↔ ∃ a, x = .ok a ∧ f a = .ok b := by
  cases x <;> simp [bind, Except.bind]

/- By induction as the arguments are taken: the flag says nothing but its own, whatever option is
   pending. -/
theorem takeLevel_withoutJson (json : Bool) (own : ∀ o ∈ level.options, o.name ≠ "json")
    {pending : Option Option_} {arguments : List String}
    {subcommand : Option (String × List String)}
    (taken : takeLevel level pending arguments g = .ok (g', subcommand)) :
    takeLevel level pending (withoutJson arguments) { g with json := json } =
      .ok ({ g' with json := json },
        subcommand.map fun (name, rest) => (name, withoutJson rest)) := by
  fun_induction takeLevel level pending arguments g with
  | case3 o value rest g plain ih =>
    obtain ⟨next, added, behind⟩ := bind_eq_ok.mp taken
    rw [withoutJson_value plain, takeLevel, if_neg plain, addValue_json added]
    exact ih next behind
  | case4 g =>
    cases taken
    rfl
  | case5 argument rest g form =>
    obtain ⟨next, added, same⟩ := bind_eq_ok.mp taken
    cases same
    obtain rfl := formOf_eq_escape form
    rw [withoutJson, if_pos rfl, takeLevel]
    simp only [form, addFiles_json added]
    rfl
  | case6 argument rest g name o value found form ih =>
    obtain ⟨next, added, behind⟩ := bind_eq_ok.mp taken
    rw [withoutJson_keeps (by simp [form]) (by simp [form]), takeLevel]
    simp only [form, found, addValue_json added]
    exact ih next behind
  | case7 argument rest g name o found form ih =>
    have notJson : name ≠ "json" := by
      rintro rfl
      exact own o (List.mem_of_find?_eq_some found) (by simpa using List.find?_some found)
    rw [withoutJson_keeps (by simp [form]) (by simp [form, notJson]), takeLevel]
    simp only [form, found]
    exact ih taken
  | case10 argument rest g fresh unknown form ih =>
    obtain rfl := formOf_eq_json form
    exact ih taken
  | case13 argument rest g letter attached form o value given found ih =>
    obtain ⟨next, added, behind⟩ := bind_eq_ok.mp taken
    rw [withoutJson_keeps (by simp [form]) (by simp [form]), takeLevel]
    simp only [form, found, given, addValue_json added]
    exact ih next behind
  | case14 argument rest g letter attached form o given found ih =>
    rw [withoutJson_keeps (by simp [form]) (by simp [form]), takeLevel]
    simp only [form, found, given]
    exact ih taken
  | case17 argument rest g form hasSubcommands =>
    cases taken
    rw [withoutJson_keeps (by simp [form]) (by simp [form]), takeLevel]
    simp only [form, hasSubcommands, if_true, Option.map_some]
  | case18 argument rest g form noSubcommands ih =>
    obtain ⟨next, added, behind⟩ := bind_eq_ok.mp taken
    rw [withoutJson_keeps (by simp [form]) (by simp [form]), takeLevel]
    simp only [form, noSubcommands, addFile_json added]
    exact ih next behind
  | _ => cases taken

theorem own_options (name : String) : ∀ o ∈ (levelOf name).options, o.name ≠ "json" := by
  unfold levelOf
  split <;> decide

variable {arguments : List String} {i : Invocation}

theorem invocation_eq_ok : invocation arguments = .ok i ↔
    ∃ outer name rest inner others,
      takeLevel rootLevel none arguments {} = .ok (outer, some (name, rest)) ∧
        subcommands.contains name = true ∧
        takeLevel (levelOf name) none rest {} = .ok (inner, others) ∧
        actionOf name inner = .ok i.action ∧
        i.rules = (inner.value? "rules").or (outer.value? "rules") ∧
        i.json = (inner.json || outer.json) := by
  constructor
  · intro asked
    obtain ⟨⟨outer, subcommand⟩, taken, asked⟩ := bind_eq_ok.mp asked
    dsimp only at asked
    split at asked
    · cases asked
    · cases asked
    · rename_i name rest _
      cases known : subcommands.contains name with
      | false =>
        rw [known] at asked
        cases asked
      | true =>
        rw [known] at asked
        obtain ⟨⟨inner, others⟩, within, asked⟩ := bind_eq_ok.mp asked
        obtain ⟨action, meant, asked⟩ := bind_eq_ok.mp asked
        cases asked
        exact ⟨outer, name, rest, inner, others, taken, known, within, meant, rfl, rfl⟩
  · rintro ⟨outer, name, rest, inner, others, taken, known, within, meant, rules, json⟩
    refine bind_eq_ok.mpr ⟨_, taken, ?_⟩
    dsimp only
    split
    · simp_all
    · simp_all [subcommands]
    · rename_i other same
      obtain ⟨rfl, rfl⟩ : name = _ ∧ rest = _ := by simpa using same
      rw [known]
      refine bind_eq_ok.mpr ⟨_, within, bind_eq_ok.mpr ⟨_, meant, ?_⟩⟩
      rw [← rules, ← json]
      rfl

/-- The flag may stand in front of all other arguments, or be missing. -/
theorem invocation_json (json : Bool) (asked : invocation arguments = .ok i)
    {others : List String} (front : takeLevel rootLevel none others {} =
      takeLevel rootLevel none (withoutJson arguments) { json := json }) :
    invocation others = .ok { i with json := json } := by
  obtain ⟨outer, name, rest, inner, behind, taken, known, within, action, rules, _⟩ :=
    invocation_eq_ok.mp asked
  have root : ∀ o ∈ rootLevel.options, o.name ≠ "json" := by decide
  have outside := front.trans (takeLevel_withoutJson json root taken)
  have inside := takeLevel_withoutJson false (own_options name) within
  exact invocation_eq_ok.mpr ⟨_, name, withoutJson rest, _, _, outside, known, inside, action,
    rules, rfl⟩

theorem invocation_withoutJson (asked : invocation arguments = .ok i) :
    invocation (withoutJson arguments) = .ok { i with json := false } :=
  invocation_json false asked rfl

theorem invocation_withJson (asked : invocation arguments = .ok i) :
    invocation ("--json" :: withoutJson arguments) = .ok { i with json := true } :=
  invocation_json true asked rfl

end InfraLint.Command
