import InfraLint.Numeric.Shortest
import InfraLint.Text.Quoted
import InfraLint.Yaml.Value

/-!
Reading nodes as values of a known kind: texts, booleans, integers, lists and records whose
fields have defaults. A node of another kind is refused with its path and place.
-/
namespace InfraLint.Yaml

inductive Step where
  | key (name : String)
  | unknown
  | index (i : Nat)
  deriving DecidableEq, Repr

structure Fault where
  message : String
  path : List Step
  mark : Mark
  deriving DecidableEq, Repr

def pathText : List Step → String
  | [] => ""
  | steps => steps.foldl (fun text step =>
      let point := if text.isEmpty then "" else "."
      match step with
      | .key name => text ++ point ++ name
      | .unknown => text ++ point ++ "?"
      | .index i => text ++ "[" ++ toString i ++ "]") ""

def Fault.text (f : Fault) : String :=
  let path := if f.path.isEmpty then "" else pathText f.path ++ ": "
  let place := if f.mark.line = 0 && f.mark.column = 0 then "" else
    " at line " ++ toString (f.mark.line + 1) ++ " column " ++ toString (f.mark.column + 1)
  path ++ f.message ++ place

def numberLayout : NumberLayout := ⟨-400, 400, "NaN.0", "inf.0"⟩

def Meaning.describe : Meaning → String
  | null => "unit value"
  | bool b => "boolean \x60" ++ toString b ++ "\x60"
  | int n => "integer \x60" ++ toString n ++ "\x60"
  | float x => "floating point \x60" ++ numberLayout.write x ++ "\x60"
  | text s => "string " ++ Text.quote s

def mismatch (expected : String) : Node → String
  | .scalar _ p style s =>
    match meaning p.tag style s with
    | .ok m => "invalid type: " ++ m.describe ++ ", expected " ++ expected
    | .error fault =>
      "invalid value: string " ++ Text.quote fault.text ++ ", expected " ++ fault.expected
  | .sequence _ _ _ => "invalid type: sequence, expected " ++ expected
  | .mapping _ _ _ => "invalid type: map, expected " ++ expected
  | .reference _ _ => "invalid type: unit value, expected " ++ expected

abbrev Decoder (α : Type) := Anchors → List Step → Node → Except Fault α

namespace Decoder

def refuse (expected : String) : Decoder α := fun _ path n =>
  .error ⟨mismatch expected n, path, n.mark⟩

def text (expected : String) : Decoder String := fun anchors path n =>
  match n with
  | .scalar _ _ _ s => .ok s
  | n => refuse expected anchors path n

def string : Decoder String := text "a string"

/-- Plain scalars are read by their form. A literal text is, if its tag asks for it. -/
def isReadByForm (tag : String) (p : Properties) (style : Style) : Bool :=
  style = .plain || style = .literal && p.tag = some tag

def boolean : Decoder Bool := fun anchors path n =>
  let read := match n with
    | .scalar _ p style s => if isReadByForm boolTag p style then bool? s else none
    | _ => none
  match read with
  | some b => .ok b
  | none => refuse "a boolean" anchors path n

def integer : Decoder Int := fun anchors path n =>
  let read := match n with
    | .scalar _ p style s =>
      if isReadByForm intTag p style then
        (integer? s.toList).filter (fitsSigned 64)
      else none
    | _ => none
  match read with
  | some i => .ok i
  | none => refuse "i64" anchors path n

def isLeftOut : Node → Bool
  | .scalar _ _ .plain "" => true
  | _ => false

def itemsFrom (item : Decoder α) (anchors : Anchors) (path : List Step) :
    Nat → List Node → Except Fault (List α)
  | _, [] => .ok []
  | i, n :: ns => do
    let a ← item anchors (path ++ [.index i]) (n.resolve anchors)
    return a :: (← itemsFrom item anchors path (i + 1) ns)

def list (item : Decoder α) : Decoder (List α) := fun anchors path n =>
  match n with
  | .sequence _ _ ns => itemsFrom item anchors path 0 ns
  | n => if isLeftOut n then .ok [] else refuse "a sequence" anchors path n

abbrev Fields (σ : Type) := String → Option (Decoder (σ → σ))

def into (item : Decoder α) (set : α → σ → σ) : Option (Decoder (σ → σ)) :=
  some fun anchors path n => (item anchors path n).map set

def stepOf : Node → Step
  | .scalar _ _ _ s => .key s
  | _ => .unknown

/-- Goes through the members of a mapping. Keys that name no field are passed over; a field must
not be given twice. -/
def membersFrom (fields : Fields σ) (anchors : Anchors) (path : List Step) (mark : Mark) :
    List String → σ → List (Node × Node) → Except Fault σ
  | _, state, [] => .ok state
  | seen, state, (k, v) :: ms => do
    let key ← text "field identifier" anchors path (k.resolve anchors)
    match fields key with
    | none => membersFrom fields anchors path mark seen state ms
    | some field =>
      if seen.contains key then .error ⟨"duplicate field \x60" ++ key ++ "\x60", path, mark⟩
      else
        let set ← field anchors (path ++ [stepOf k]) (v.resolve anchors)
        membersFrom fields anchors path mark (key :: seen) (set state) ms

def record (name : String) (default : σ) (fields : Fields σ) : Decoder σ :=
  fun anchors path n =>
    match n with
    | .mapping mark _ ms => membersFrom fields anchors path mark [] default ms
    | n => if isLeftOut n then .ok default else refuse ("struct " ++ name) anchors path n

end Decoder

/-- A text that cannot be read. The fault is known only where the text is YAML and its value can
be read without any expectation. -/
structure Error where
  fault : Option Fault
  deriving DecidableEq, Repr

def read (decoder : Decoder α) (default : α) (text : String) : Except Error α :=
  match Document.read? text with
  | none => .error ⟨none⟩
  | some d =>
    match d.root with
    | none => .ok default
    | some root =>
      match decoder d.anchors [] (root.resolve d.anchors) with
      | .ok a => .ok a
      | .error fault => .error ⟨if (Value.ofDocument? d).isSome then some fault else none⟩

end InfraLint.Yaml
