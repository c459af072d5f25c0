import Narrative.Build
import Narrative.Document.Quest

/-!
# Load — stories and settings from files

Loading takes the path of a file and what reading it as text came to: `none` if it cannot be
read. It fails only for the file and the form of its document; what is wrong with the story itself
ends up in the warnings.
-/

namespace Narrative

/-- Why no story could be loaded from a file. -/
inductive LoadError where
  | unsupported (path : String)
  | unreadable (path : String)
  | malformed (path : String) (format : Format)
deriving DecidableEq, Repr

/-- The message of a load error. -/
def LoadError.message : LoadError → String
  | .unsupported path => "unsupported quest file extension: '" ++ path ++ "'"
  | .unreadable path => "reading quest from '" ++ path ++ "'"
  | .malformed path _ => "while loading quest '" ++ path ++ "'"

/-- Loads the story in a file; the extension of the path decides about the syntax. -/
def Quest.load (path : String) (content : Option String) : Except LoadError Quest :=
  match Format.ofPath? path, content with
  | none, _ => .error (.unsupported path)
  | some _, none => .error (.unreadable path)
  | some format, some text =>
    match Quest.read? format text with
    | some quest => .ok quest
    | none => .error (.malformed path format)

/-- Why no settings could be loaded from a file. -/
inductive SettingsError where
  | unreadable (path : String)
  | malformed (path : String)
deriving DecidableEq, Repr

/-- The message of a settings error. -/
def SettingsError.message : SettingsError → String
  | .unreadable path => "reading engine config from '" ++ path ++ "'"
  | .malformed path => "parsing engine config from '" ++ path ++ "'"

/-- Loads the settings in a file. -/
def Settings.load (path : String) (content : Option String) : Except SettingsError Settings :=
  match content with
  | none => .error (.unreadable path)
  | some text =>
    match Settings.read? text with
    | some settings => .ok settings
    | none => .error (.malformed path)

/-- The settings in a file, or the built-in ones if they cannot be loaded. -/
def Settings.loadOrDefault (path : String) (content : Option String) : Settings :=
  match Settings.load path content with
  | .ok settings => settings
  | .error _ => {}

end Narrative
