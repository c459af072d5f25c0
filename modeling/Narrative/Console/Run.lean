import Narrative.Console.Basic

/-!
# Console.Run — a run of the program

A run loads a story, shows its title and plays it until the story ends, the player leaves or no
more lines come.
-/

namespace Narrative

/-- The files of a run, each with its path and its text if it can be read. -/
structure RunFiles where
  questPath : String
  quest : Option String
  settingsPath : String
  settings : Option String

namespace RunFiles

/-- The story of a run. -/
def story (files : RunFiles) : Except LoadError Quest := Quest.load files.questPath files.quest

/-- The session of a run over its story. -/
def session (files : RunFiles) (quest : Quest) : Session :=
  .new quest.graph (Settings.loadOrDefault files.settingsPath files.settings)

end RunFiles

/-- What a run comes to. -/
structure Run where
  /-- All that is written. -/
  output : String
  succeeded : Bool
deriving DecidableEq, Repr

/-- The run over these files with a player who types these lines. It fails if there is no story
or if the story does not start. -/
def Run.ofFiles (files : RunFiles) (lines : List String) : Run :=
  match files.story with
  | .error _ => { output := "", succeeded := false }
  | .ok quest =>
    let banner := Console.banner quest.graph
    match Console.play (files.session quest) lines with
    | .error _ => { output := banner, succeeded := false }
    | .ok (output, _) => { output := banner ++ output, succeeded := true }

end Narrative
