/-!
Paths as text with slashes. A path that starts with a slash leads through the name `/`, under
which the root of the file system stands in a tree. A tree is a view of the file system along the
paths that are looked at: two dots stand in it as a name like any other, with what they lead to.
-/
namespace InfraLint.Path

def segments : List Char → List (List Char)
  | [] => [[]]
  | c :: s =>
    if c = '/' then [] :: segments s
    else
      match segments s with
      | [] => [[c]]
      | segment :: rest => (c :: segment) :: rest

def isAbsolute (path : String) : Bool := "/".isPrefixOf path

def names (path : String) : List String :=
  (if isAbsolute path then ["/"] else []) ++
    ((segments path.toList).map String.ofList).filter fun s => s ≠ "" && s ≠ "."

def fileName? (path : String) : Option String :=
  (names path).getLast?.filter fun s => s ≠ "/" && s ≠ ".."

/-- A slash or a dot at the end asks for a directory. -/
def asksForDirectory (path : String) : Bool :=
  match (segments path.toList).getLast? with
  | some segment => segment = [] || segment = ['.']
  | none => false

def extension? (path : String) : Option String := do
  let reversed := (← fileName? path).toList.reverse
  let extension := reversed.takeWhile (· ≠ '.')
  let stem := (reversed.dropWhile (· ≠ '.')).drop 1
  if stem.isEmpty then none else some (.ofList extension.reverse)

def join : List String → String
  | "/" :: names => "/" ++ "/".intercalate names
  | names => "/".intercalate names

end InfraLint.Path
