import InfraLint.Command.Run
import InfraLint.Text.Script

/-!
The program: it looks at the files that its arguments name, and hands them over.
-/
open InfraLint

namespace InfraLint.Main

/-- The names in a directory. A directory that cannot be listed is noted as closed. -/
def listDirectory (path : String) : StateT (List (List String)) IO (List String) := do
  try
    return (← ((← IO.currentDir) / path).readDir).toList.map (·.fileName)
  catch _ =>
    modify (Path.names path :: ·)
    return []

def loadEntry (path : String) : Nat → StateT (List (List String)) IO (Option Entry)
  | 0 => return some .empty
  | fuel + 1 => do
    let place := (← IO.currentDir) / path
    if ← place.isDir then
      let entries ← (← listDirectory path).filterMapM fun name => do
        return (← loadEntry (path ++ "/" ++ name) fuel).map fun e => (name, e)
      return some (.directory (entries.foldr (fun (name, e) es => Entry.insert name e es) []))
    else if ← place.pathExists then
      return some (.file (String.fromUTF8? (← IO.FS.readBinFile place)))
    else return none

def pathsOf (i : Command.Invocation) : List String :=
  i.rules.toList ++ match i.action with
    | .audit _ [] base => [base ++ "/infra/terraform", base ++ "/infra/bicep"]
    | .audit _ files _ => files
    | .evaluate plan _ => [plan]
    | _ => []

def searchedBy (i : Command.Invocation) : List String :=
  match i.action with
  | .audit _ [] base => ((baseNames? base).elim [] (searched [])).map directoryPath
  | _ => []

def loadTree (paths : List String) : StateT (List (List String)) IO Entry :=
  paths.foldlM (fun tree path => do
    match ← loadEntry path 256 with
    | some e => return ((Entry.put? e (Path.names path) tree).getD tree)
    | none => return tree) .empty

def loadFiles (i : Command.Invocation) : IO Files := do
  let load : StateT (List (List String)) IO Entry := do
    for path in searchedBy i do
      if ← ((← IO.currentDir) / path).isDir then discard (listDirectory path)
    loadTree (pathsOf i)
  let (tree, closed) ← load.run []
  return { tree, closed }

def textsIn (bytes : ByteArray) : List String :=
  (bytes.toList.splitBy fun _ b => b ≠ 0).map fun part => Native.ofBytes (part.filter (· ≠ 0))

def environment : IO (List (String × String)) := do
  try
    return (textsIn (← IO.FS.readBinFile "/proc/self/environ")).filterMap fun entry =>
      match entry.splitOn "=" with
      | name :: value@(_ :: _) => some (name, "=".intercalate value)
      | _ => none
  catch _ => return []

end InfraLint.Main

def main (arguments : List String) : IO UInt32 := do
  let files ← match Command.invocation arguments with
    | .ok i => Main.loadFiles i
    | .error _ => pure { tree := .empty }
  let result := Command.run Text.Script.table arguments (← Main.environment) files
  IO.print result.out
  IO.eprint result.err
  return result.code.toUInt32
