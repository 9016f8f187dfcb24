import CrossConnect.CommandLine.Run

/-!
The command line program: it takes the files of the data directory from the disk, runs the command
on them, and puts what has changed back.
-/
open CrossConnect

namespace CrossConnect.CommandLine

def diskEntry? (path : String) : IO (Option FileNode.Entry) := do
  let file := (← IO.currentDir) / path
  if ← file.isDir then return some .folder
  else if ← file.pathExists then
    return some (.file (String.fromUTF8? (← IO.FS.readBinFile file)))
  else return none

def takePath (files : FileTree) (path : String) : IO FileTree := do
  match Path.ofString path with
  | .error _ => return files
  | .ok p =>
    p.ancestors.reverse.foldlM (fun files p => do
      match ← diskEntry? (toString p) with
      | some entry => return (files.add (toString p) entry).toOption.getD files
      | none => return files) files

def putChanges (before after : FileTree) : IO Unit := do
  for (place, entry) in after.root.changesSince before.root do
    let file := (← IO.currentDir) / toString (Path.ofLocation place)
    match entry with
    | .folder => IO.FS.createDirAll file
    | .file text => text.forM (IO.FS.writeFile file)

def takeFiles (folder : String) : IO FileTree := do
  let home := ((← IO.currentDir).toString.splitOn "/").filter (· ≠ "")
  (Datastore.paths folder).foldlM takePath (.ofHome home)

def usage : String :=
  "usage: inspect [--datastore DIR] [--structure NAME]\n" ++
  "       fill --structure NAME --cable NAME [--datastore DIR] [--bundle N] [--port N]\n" ++
  "            [--side a|b] [--json]\n" ++
  "       init-config [--datastore DIR] [--force]"

def printErrors (errors : List String) : IO Unit := do
  let out ← IO.getStderr
  match errors with
  | [] => return
  | outermost :: causes =>
    out.putStrLn s!"Error: {outermost}"
    for cause in causes do
      out.putStrLn s!"caused by: {cause}"

def runCommand (command : Command) : IO UInt32 := do
  let files ← takeFiles command.datastore
  let leading := BitVec.ofNat 96 (← IO.rand 0 (BitVec.allOnes 96).toNat)
  let (result, console) :=
    command.run files (.numbered leading 0) (.numbered leading (1 <<< 31))
  putChanges files console.files
  IO.print console.output
  (← IO.getStderr).putStr console.errorOutput
  match result with
  | .ok () => return 0
  | .error errors =>
    printErrors errors
    return 1

end CrossConnect.CommandLine

def main (arguments : List String) : IO UInt32 := do
  match CommandLine.Command.parse? arguments with
  | some command => CommandLine.runCommand command
  | none =>
    (← IO.getStderr).putStrLn CommandLine.usage
    return 2
