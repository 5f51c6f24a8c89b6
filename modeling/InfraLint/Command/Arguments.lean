import InfraLint.Audit.Audit
import InfraLint.Text.Native

/-!
The arguments of the program. Options of the program as a whole may stand in front of the
subcommand or behind it; behind it they count more. Arguments are taken from left to right, and
the first fault, or the first request for help, decides.
-/
namespace InfraLint.Command

inductive Action where
  | audit (audit : Audit) (files : List String) (base : String)
  | evaluate (plan : String) (checks : List String)
  | checks
  | rules
  deriving DecidableEq, Repr

structure Invocation where
  rules : Option String
  json : Bool
  action : Action
  deriving DecidableEq, Repr

inductive Stop where
  | information
  | misuse
  deriving DecidableEq, Repr

structure Option_ where
  name : String
  short : Option Char := none
  /-- Paths must not be empty. Other values must be UTF-8. -/
  isPath : Bool := true
  repeatable : Bool := false

structure Level where
  options : List Option_
  takesFiles : Bool := false
  hasVersion : Bool := false
  hasSubcommands : Bool := false

def rulesOption : Option_ := { name := "rules" }

def rootLevel : Level where
  options := [rulesOption]
  hasVersion := true
  hasSubcommands := true

def auditLevel : Level where
  options := [rulesOption, { name := "base-dir" }]
  takesFiles := true

def evaluateLevel : Level where
  options := [rulesOption, { name := "plan", short := some 'p' },
    { name := "check", isPath := false, repeatable := true }]

def plainLevel : Level where
  options := [rulesOption]

structure Given where
  json : Bool := false
  values : List (String × String) := []
  files : List String := []

namespace Given

def value? (name : String) (g : Given) : Option String := g.values.lookup name

def values? (name : String) (g : Given) : List String :=
  (g.values.filter (·.1 = name)).map (·.2)

def addValue (o : Option_) (value : String) (g : Given) : Except Stop Given :=
  let refused := if o.isPath then value.isEmpty else !Native.isUtf8 value
  if refused || !o.repeatable && (g.value? o.name).isSome then .error .misuse
  else .ok { g with values := g.values ++ [(o.name, value)] }

def addFile (level : Level) (file : String) (g : Given) : Except Stop Given :=
  if file = "" || !level.takesFiles then .error .misuse
  else .ok { g with files := g.files ++ [file] }

end Given

def looksLikeOption (argument : String) : Bool :=
  match argument.toList with
  | '-' :: _ :: _ => true
  | _ => false

inductive Form where
  | escape
  | long (name : String) (value : Option String)
  | short (letter : Char) (rest : List Char)
  | plain

def formOf (argument : String) : Form :=
  match argument.toList with
  | ['-', '-'] => .escape
  | '-' :: '-' :: s =>
    let name := s.takeWhile (· ≠ '=')
    match s.dropWhile (· ≠ '=') with
    | _ :: value => .long (.ofList name) (some (.ofList value))
    | [] => .long (.ofList name) none
  | '-' :: c :: rest => .short c rest
  | _ => .plain

def attachedValue : List Char → Option String
  | [] => none
  | '=' :: value => some (.ofList value)
  | value => some (.ofList value)

/-- Takes the arguments of one level, where `pending` is an option that still wants its value.
Where the level has subcommands, the first argument that is no option names one, and the
arguments behind it are left. -/
def takeLevel (level : Level) : Option Option_ → List String → Given →
    Except Stop (Given × Option (String × List String))
  | some _, [], _ => .error .misuse
  | some o, value :: rest, g =>
    if looksLikeOption value then .error .misuse
    else do takeLevel level none rest (← g.addValue o value)
  | none, [], g => .ok (g, none)
  | none, argument :: rest, g =>
    match formOf argument with
    | .escape => do return (← rest.foldlM (fun g file => g.addFile level file) g, none)
    | .long name value =>
      match level.options.find? (·.name = name), value with
      | some o, some value => do takeLevel level none rest (← g.addValue o value)
      | some o, none => takeLevel level (some o) rest g
      | none, some _ => .error .misuse
      | none, none =>
        if name = "json" then
          if g.json then .error .misuse else takeLevel level none rest { g with json := true }
        else if name = "help" || level.hasVersion && name = "version" then .error .information
        else .error .misuse
    | .short letter attached =>
      match level.options.find? (·.short = some letter), attachedValue attached with
      | some o, some value => do takeLevel level none rest (← g.addValue o value)
      | some o, none => takeLevel level (some o) rest g
      | none, _ =>
        if letter = 'h' || level.hasVersion && letter = 'V' then .error .information
        else .error .misuse
    | .plain =>
      if level.hasSubcommands then .ok (g, some (argument, rest))
      else do takeLevel level none rest (← g.addFile level argument)

def subcommands : List String := ["naming", "tags", "evaluate", "checks", "rules"]

def help : List String → Stop
  | [] => .information
  | [name] => if subcommands.contains name || name = "help" then .information else .misuse
  | _ => .misuse

def levelOf : String → Level
  | "naming" => auditLevel
  | "tags" => auditLevel
  | "evaluate" => evaluateLevel
  | _ => plainLevel

def actionOf (name : String) (g : Given) : Except Stop Action :=
  let base := (g.value? "base-dir").getD "."
  match name with
  | "naming" => .ok (.audit .naming g.files base)
  | "tags" => .ok (.audit .tags g.files base)
  | "evaluate" =>
    match g.value? "plan" with
    | some plan => .ok (.evaluate plan (g.values? "check"))
    | none => .error .misuse
  | "checks" => .ok .checks
  | "rules" => .ok .rules
  | _ => .error .misuse

def invocation (arguments : List String) : Except Stop Invocation := do
  let (outer, subcommand) ← takeLevel rootLevel none arguments {}
  match subcommand with
  | none => .error .misuse
  | some ("help", names) => .error (help names)
  | some (name, rest) =>
    if !subcommands.contains name then .error .misuse
    let (inner, _) ← takeLevel (levelOf name) none rest {}
    let action ← actionOf name inner
    return ⟨(inner.value? "rules").or (outer.value? "rules"), inner.json || outer.json, action⟩

end InfraLint.Command
