import InfraLint.Source.Language
import InfraLint.Tree.Entry

/-!
Discovery of sources: below a base directory, Terraform sources are looked for in
`infra/terraform` and Bicep sources in `infra/bicep`, at any depth. The name alone decides, so a
directory with such a name is found too. A directory on the way that cannot be listed ends the
search. The names of the base stand for themselves whatever characters they hold, so that the search
cannot fail for its pattern.
-/
namespace InfraLint
open Source

def Source.Language.root : Language → List String
  | .terraform => ["infra", "terraform"]
  | .bicep => ["infra", "bicep"]

def isSourceName (language : Language) (name : String) : Bool :=
  Native.isUtf8 name && ('.' :: language.extension.toList).isSuffixOf name.toList

/-- The names of a base directory as they show in paths: dots at the start and empty segments do
not show. A base without segments is the root of the file system, and dots lead nowhere if an
empty segment follows them. -/
def baseNames? (base : String) : Option (List String) :=
  let segments := (Path.segments base.toList).map String.ofList
  match segments.dropWhile (· = ".") with
  | "" :: rest =>
    if segments.head? = some "." then none else some ("/" :: rest.filter (· ≠ ""))
  | names => some (names.filter (· ≠ ""))

def sourcesBelow (base : List String) (tree : Entry) (language : Language) : List String :=
  match tree.at? (base.filter (· ≠ ".") ++ language.root) with
  | .error _ => []
  | .ok directory =>
    (directory.descendants.filter fun names => names.getLast?.any (isSourceName language)).map
      fun names => Path.join (base ++ language.root ++ names)

def isPatterned (name : String) : Bool := name.toList.any "*?[]".toList.contains

/-- The places above the names of a base that hold such a character. There the name is searched for
in the list of a directory, while other names are looked up. -/
def searched (above : List String) : List String → List (List String)
  | [] => []
  | name :: rest =>
    let below := searched (above ++ [name]) rest
    if isPatterned name then above :: below else below

def isDirectoryAt (tree : Entry) (names : List String) : Bool :=
  match tree.at? (names.filter (· ≠ ".")) with
  | .ok (.directory _) => true
  | _ => false

def walk (base : List String) (tree : Entry) (language : Language) : List (List String) :=
  (searched [] base).filter (isDirectoryAt tree) ++
    match tree.at? (base.filter (· ≠ ".") ++ language.root) with
    | .error _ => []
    | .ok root => root.directories.map (base ++ language.root ++ ·)

def directoryPath : List String → String
  | [] => "."
  | names => Path.join names

structure WalkError where
  path : String
  deriving DecidableEq, Repr

namespace WalkError

def cause (e : WalkError) : String :=
  "attempting to read \x60" ++ Native.shown e.path ++
    "\x60 resulted in an error: Permission denied (os error 13)"

def message (e : WalkError) : String := "Failed to walk source tree: " ++ e.cause

end WalkError

/-- The sources of one language, or the first directory in whose list they cannot be looked for. -/
def discoverLanguage (base : List String) (files : Files) (language : Language) :
    Except WalkError (List String) :=
  match (walk base files.tree language).find? files.isClosed with
  | some names => .error ⟨directoryPath names⟩
  | none => .ok (sourcesBelow base files.tree language)

def discover (base : String) (files : Files) : Except WalkError (List String) :=
  match baseNames? (Native.shown base) with
  | none => .ok []
  | some base => do
    let terraform ← discoverLanguage base files .terraform
    let bicep ← discoverLanguage base files .bicep
    return terraform ++ bicep

end InfraLint
