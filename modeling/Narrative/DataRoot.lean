import Narrative.Path

/-!
# DataRoot — where stories are looked for

The data root holds the story that is played when none is named, and the settings. It can be set
from outside; else it is the first of a few directories that exists.
-/

namespace Narrative.DataRoot

/-- The environment variable that sets the data root. -/
def variableName : String := "QUEST_DATA_DIR"

/-- The data root if nothing else is found. -/
def fallback : String := "quest_engine/data"

/-- The directories that may be the data root, the preferred one first. The last two stand beside
the program and one level above it. -/
def candidates (program : Option String) : List String :=
  [fallback, "data"] ++
    match program with
    | none => []
    | some program =>
      let home := Path.directory program.toList
      [Path.join (String.ofList home) "data",
       Path.join (String.ofList (Path.directory home)) "data"]

/-- The data root, given the value of the variable and those candidates that exist. -/
def choose (override : Option String) (existing : List String) : String :=
  override.getD (existing.headD fallback)

/-- The story that is played when none is named. -/
def questPath (root : String) : String := Path.join root "quest.json"

def settingsPath (root : String) : String := Path.join root "engine.toml"

end Narrative.DataRoot
