import InfraLint.Text.Native
import InfraLint.Tree.Path

/-!
Trees of directories and files. The names in a directory are in the order of their bytes, so that a
tree does not show in which order it was built.
-/
namespace InfraLint

inductive Entry where
  /-- A file with its text; none if its bytes are not UTF-8. -/
  | file (text : Option String)
  | directory (entries : List (String × Entry))

inductive PathError where
  | notFound
  | notDirectory
  | isDirectory
  | notUtf8
  deriving DecidableEq, Repr

def PathError.message : PathError → String
  | notFound => "No such file or directory (os error 2)"
  | notDirectory => "Not a directory (os error 20)"
  | isDirectory => "Is a directory (os error 21)"
  | notUtf8 => "stream did not contain valid UTF-8"

namespace Entry

def empty : Entry := directory []

def at? : List String → Entry → Except PathError Entry
  | [], e => .ok e
  | _ :: _, file _ => .error .notDirectory
  | name :: rest, directory entries =>
    match List.lookup name entries with
    | none => .error .notFound
    | some e => at? rest e

def find (path : String) (tree : Entry) : Except PathError Entry :=
  if path = "" then .error .notFound
  else
    match tree.at? (Path.names path) with
    | .ok (file text) =>
      if Path.asksForDirectory path then .error .notDirectory else .ok (file text)
    | result => result

def contains (path : String) (tree : Entry) : Bool :=
  match tree.find path with
  | .ok _ => true
  | .error _ => false

def read (path : String) (tree : Entry) : Except PathError String := do
  match ← tree.find path with
  | file (some text) => .ok text
  | file none => .error .notUtf8
  | directory _ => .error .isDirectory

def insert (name : String) (e : Entry) : List (String × Entry) → List (String × Entry)
  | [] => [(name, e)]
  | (n, other) :: rest =>
    if Native.bytes name < Native.bytes n then (name, e) :: (n, other) :: rest
    else if Native.bytes name = Native.bytes n then (name, e) :: rest
    else (n, other) :: insert name e rest

def replace? : Entry → Entry → Option Entry
  | file text, file _ => some (file text)
  | directory _, directory entries => some (directory entries)
  | _, _ => none

/-- Puts an entry at the end of a list of names and makes the directories on the way. Fails where
a file is in the way, or the entry is of another kind than the one at its place. -/
def put? (entry : Entry) : List String → Entry → Option Entry
  | [], old => replace? entry old
  | _ :: _, file _ => none
  | name :: rest, directory entries =>
    match rest, List.lookup name entries with
    | [], none => some (directory (insert name entry entries))
    | rest, old =>
      (put? entry rest (old.getD empty)).map fun e => directory (insert name e entries)

def remove? : List String → Entry → Option Entry
  | [], _ => none
  | _ :: _, file _ => none
  | [name], directory entries =>
    (List.lookup name entries).map fun _ => directory (entries.filter (·.1 ≠ name))
  | name :: rest, directory entries => do
    let e ← remove? rest (← List.lookup name entries)
    return directory (insert name e entries)

mutual

def descendants : Entry → List (List String)
  | file _ => []
  | directory entries => descendantsOf entries

def descendantsOf : List (String × Entry) → List (List String)
  | [] => []
  | (name, e) :: rest => [name] :: (descendants e).map (name :: ·) ++ descendantsOf rest

end

mutual

def directories : Entry → List (List String)
  | file _ => []
  | directory entries => [] :: directoriesOf entries

def directoriesOf : List (String × Entry) → List (List String)
  | [] => []
  | (name, e) :: rest => (directories e).map (name :: ·) ++ directoriesOf rest

end

end Entry

/-- A tree and the places of its directories that cannot be listed. What is in them can still be
read by its path. -/
structure Files where
  tree : Entry
  closed : List (List String) := []

def Files.isClosed (files : Files) (names : List String) : Bool :=
  files.closed.contains (names.filter (· ≠ "."))

end InfraLint
