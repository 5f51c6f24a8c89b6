import InfraLint.Text.Native
import InfraLint.Text.Search

/-!
Settings of the log, taken from the environment. They change where and how events are logged, and
nothing else.
-/
namespace InfraLint

structure Settings where
  logLevel : String := "warn"
  logFormat : String := "pretty"
  deriving DecidableEq, Repr

namespace Settings

def jsonLogs (s : Settings) : Bool := s.logFormat = "json"

def marker : List Char := "IAC_POLICY_".toList

/-- The name behind the marker, which may stand there more than once. -/
def unmarked (fuel : Nat) (name : List Char) : List Char :=
  match fuel, Text.after? marker name with
  | fuel + 1, some rest => unmarked fuel rest
  | _, _ => name

def settingName? (key : String) : Option String :=
  let name := key.toList
  if (Text.after? marker name).isSome then
    some (.ofList ((unmarked name.length name).map Char.toLower))
  else none

inductive Fault where
  | duplicate (name : String)
  /-- Variables are taken as texts, those of other programs too. -/
  | notUtf8
  deriving DecidableEq, Repr

def duplicateMessage (name : String) : String := "duplicate field \x60" ++ name ++ "\x60"

def isText : String × String → Bool
  | (key, value) => Native.isUtf8 key && Native.isUtf8 value

def fold : List (String × String) → List String → Settings → Except Fault Settings
  | [], _, settings => .ok settings
  | (key, value) :: rest, seen, settings =>
    if !isText (key, value) then .error .notUtf8
    else
      match settingName? key with
      | some "log_level" =>
        if seen.contains "log_level" then .error (.duplicate "log_level")
        else fold rest ("log_level" :: seen) { settings with logLevel := value }
      | some "log_format" =>
        if seen.contains "log_format" then .error (.duplicate "log_format")
        else fold rest ("log_format" :: seen) { settings with logFormat := value }
      | _ => fold rest seen settings

def ofEnvironment (environment : List (String × String)) : Except Fault Settings :=
  fold environment [] {}

end Settings
end InfraLint
