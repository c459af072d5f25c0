import Narrative.Load

/-!
# Catalog — many stories by name

A catalog keeps the last graph that was registered under a name, and makes sessions over it.
`get?_register` says what registering does to the view.
-/

namespace Narrative

/-- Graphs by the names of their stories, with the settings of the sessions over them. -/
structure Catalog where
  quests : Registry Graph := .empty
  settings : Settings := {}

/-- What registering a graph may write to the log. -/
inductive CatalogNotice where
  | repeated (quest : String)
deriving DecidableEq, Repr

namespace CatalogNotice

def severity : CatalogNotice → Severity
  | .repeated _ => .warning

def text : CatalogNotice → String
  | .repeated quest => "quest '" ++ quest ++ "' registered twice; keeping the later one"

end CatalogNotice

/-- What stands in a directory under a name. -/
inductive DirectoryEntry where
  /-- A regular file with its text, if it can be read as text. -/
  | file (content : Option String)
  | directory
deriving DecidableEq, Repr

/-- The content of a directory by file names. -/
abbrev Directory := Registry DirectoryEntry

/-- The regular files of a directory that may hold a story, in the order of their names. -/
def Directory.candidates (directory : Directory) : List (String × Option String) :=
  directory.entries.filterMap fun entry =>
    match entry.2, Format.ofPath? entry.1 with
    | .file content, some _ => some (entry.1, content)
    | _, _ => none

/-- The stories of a directory, in the order of the file names. Files that do not load are left
out. -/
def Directory.quests (path : String) (directory : Directory) : List Quest :=
  directory.candidates.filterMap fun file =>
    (Quest.load (Path.join path file.1) file.2).toOption

/-- A directory that cannot be read. -/
structure DirectoryError where
  path : String
deriving DecidableEq, Repr

def DirectoryError.message (error : DirectoryError) : String :=
  "reading quest directory '" ++ error.path ++ "'"

namespace Catalog

/-- Registers a graph under the name of its story; an earlier one gives way. -/
def register (catalog : Catalog) (graph : Graph) : Catalog :=
  { catalog with quests := catalog.quests.insert graph.name graph }

/-- What registering a graph writes to the log. -/
def registerNotices (catalog : Catalog) (graph : Graph) : List CatalogNotice :=
  if catalog.quests.contains graph.name then [.repeated graph.name] else []

def get? (catalog : Catalog) (name : String) : Option Graph := catalog.quests.get? name

def names (catalog : Catalog) : List String := catalog.quests.names

def size (catalog : Catalog) : Nat := catalog.quests.size

def isEmpty (catalog : Catalog) : Bool := catalog.quests.isEmpty

def newSession? (catalog : Catalog) (name : String) : Option Session :=
  (catalog.get? name).map fun graph => .new graph catalog.settings

/-- Registers the stories of a directory, given its content if it can be read. Yields the name
and the warnings of each, also of those that give way to a later one. -/
def loadDirectory (catalog : Catalog) (path : String) (content : Option Directory) :
    Except DirectoryError (List (String × List LoadWarning)) × Catalog :=
  match content with
  | none => (.error ⟨path⟩, catalog)
  | some directory =>
    let quests := directory.quests path
    (.ok (quests.map fun quest => (quest.graph.name, quest.warnings)),
      (quests.map (·.graph)).foldl register catalog)

/-- Registering changes what is found under the name of the story only. -/
@[simp] theorem get?_register (catalog : Catalog) (graph : Graph) (name : String) :
    (catalog.register graph).get? name =
      if name = graph.name then some graph else catalog.get? name := by
  simp [register, get?]

end Catalog

end Narrative
