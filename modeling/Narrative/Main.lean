import Narrative.Console.Run
import Narrative.DataRoot

/-!
# Main — the console program

Plays the story in the file that is named on the command line, or the one in the data root.
Warnings and the reason of a failure go to the error stream.
-/

namespace Narrative

/-- The text of a file, if it can be read. -/
def readText? (path : String) : IO (Option String) := do
  try return some (← IO.FS.readFile path)
  catch _ => return none

/-- Whether there is a directory at a path. -/
def isDirectory (path : String) : IO Bool := do
  try
    discard <| IO.FS.Handle.mk (path ++ "/.") .read
    return true
  catch _ => return false

/-- The data root of this program. -/
def findDataRoot : IO String := do
  let program ← try pure (some (toString (← IO.appPath))) catch _ => pure none
  let existing ← (DataRoot.candidates program).filterM isDirectory
  return DataRoot.choose (← IO.getEnv DataRoot.variableName) existing

/-- Plays at a console until the play is over. -/
partial def playOn (console : Console) : IO Unit := do
  let stdout ← IO.getStdout
  if console.finished then stdout.putStr Console.ending
  else
    stdout.putStr (Console.view console.session ++ Console.prompt)
    stdout.flush
    let typed ← (← IO.getStdin).getLine
    unless typed.isEmpty do
      match console.respond typed with
      | none => pure ()
      | some (answer, next) => do
        stdout.putStr answer
        playOn next

/-- Plays the story in these files, and yields the exit status. -/
def runFiles (files : RunFiles) : IO UInt32 := do
  match files.story with
  | .error error => do
    IO.eprintln ("Error: while loading quest: " ++ error.message)
    return 1
  | .ok quest => do
    for warning in quest.warnings do
      IO.eprintln ("warning: " ++ warning.text)
    IO.print (Console.banner quest.graph)
    match Console.start (files.session quest) with
    | .error error => do
      IO.eprintln ("Error: while starting the quest: " ++ error.message)
      return 1
    | .ok console => do
      playOn console
      return 0

/-- Plays the story that the command line names, or the one in the data root. -/
def runProgram (args : List String) : IO UInt32 := do
  let root ← findDataRoot
  let questPath := args.headD (DataRoot.questPath root)
  let settingsPath := DataRoot.settingsPath root
  runFiles {
    questPath
    quest := ← readText? questPath
    settingsPath
    settings := ← readText? settingsPath }

end Narrative

/-- The program. Its first argument is the path of a story. -/
def main (args : List String) : IO UInt32 := Narrative.runProgram args
