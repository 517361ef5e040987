import LintConfig.Command.Run

/-! The command itself: it reads the files below the current folder, runs, and writes what the run
has changed. -/

namespace LintConfig.Main
open Files (Tree)

/-- The entries of a folder as a tree. -/
partial def readEntries (entries : Array IO.FS.DirEntry) : IO Tree := do
  let mut children := #[]
  for entry in entries do
    if ← entry.path.isDir then
      children := children.push (entry.fileName, ← readEntries (← entry.path.readDir))
    else
      let bytes ← IO.FS.readBinFile entry.path
      children := children.push (entry.fileName, Tree.file bytes.toList)
  return .folder children.toList

/-- Write the files of one tree that another one does not have. -/
def writeChanges (before after : Tree) : IO Unit := do
  for (place, bytes) in Tree.changes before after do
    let folder ← IO.currentDir
    let path := place.foldl (fun path part => path / part) folder
    if let some parent := path.parent then IO.FS.createDirAll parent
    IO.FS.writeBinFile path (ByteArray.mk bytes.toArray)

def readVariables : IO Settings.Variables := do
  let path := (← IO.getEnv "LINTINIT_SETTINGS").getD ""
  let format := (← IO.getEnv "LINTINIT_OUTPUT_FORMAT").getD ""
  return { path, format }

/-- Show what has been printed behind the part that is shown already. -/
def showRest (shown : Nat) (output : String) : IO Unit := do
  let stdout ← IO.getStdout
  stdout.putStr (String.ofList (output.toList.drop shown))
  stdout.flush

/-- Run, and run again with one more line of input for as long as a question is open. -/
partial def converse (surroundings : Command.Surroundings) (arguments : List String)
    (shown : Nat) : IO UInt32 := do
  let result := Command.run surroundings arguments
  let finish : IO UInt32 := do
    writeChanges surroundings.files (Command.filesAfter result)
    return UInt32.ofNat (Command.statusOf result)
  match result with
  | .error _ =>
    IO.eprintln "lint-init: the run failed"
    finish
  | .ok outcome =>
    showRest shown outcome.output
    let line ← if outcome.isOpen then (← IO.getStdin).getLine else pure ""
    if line.isEmpty then
      for warning in outcome.warnings do IO.eprintln warning
      finish
    else
      let input := surroundings.input ++ Command.inputLines line
      converse { surroundings with input } arguments outcome.output.length

end LintConfig.Main

/-- Run the command below the current folder. -/
def main (arguments : List String) : IO UInt32 := do
  let files ← LintConfig.Main.readEntries (← (← IO.currentDir).readDir)
  let environment ← LintConfig.Main.readVariables
  LintConfig.Main.converse { files, environment } arguments 0
