import Narrative.Quest

/-!
# Document — a story as it is written

The records that a document is made up of. Some places allow several forms: texts and scripts are
one text or a list of them, items have a short and a long form, and the value of a variable may be
of three types. Every record is taken in as what stands in its place in a graph, which has one form
for all of them.
-/

namespace Narrative

/-- One text, or a list of texts. -/
inductive Lines where
  | one (line : String)
  | many (lines : List String)
deriving DecidableEq, Repr

def Lines.toList : Lines → List String
  | .one line => [line]
  | .many lines => lines

/-- An item: its title alone, or a record with the title. -/
inductive ItemDeclaration where
  | short (title : String)
  | detailed (title : String)
deriving DecidableEq, Repr

def ItemDeclaration.title : ItemDeclaration → String
  | .short title | .detailed title => title

/-- What a variable starts with. -/
inductive VariableDeclaration where
  | bool (b : Bool)
  | number (x : Float)
  | text (s : String)

def VariableDeclaration.value : VariableDeclaration → Value
  | .bool b => .bool b
  | .number x => .number x
  | .text s => .text s

/-- The scripts of a place. -/
structure ScriptsDeclaration where
  once : Lines := .many []
  always : Lines := .many []
deriving DecidableEq, Repr

def ScriptsDeclaration.scripts (declared : ScriptsDeclaration) : StageScripts where
  once := declared.once.toList
  always := declared.always.toList

structure ChoiceDeclaration where
  title : String
  condition : Lines := .many []
  action : Lines
deriving DecidableEq, Repr

def ChoiceDeclaration.choice (declared : ChoiceDeclaration) : Choice where
  title := declared.title
  condition := declared.condition.toList
  action := declared.action.toList

structure ScreenDeclaration where
  name : Option String := none
  title : String := ""
  text : Lines := .many []
  scripts : ScriptsDeclaration := {}
  choices : List ChoiceDeclaration := []
deriving DecidableEq, Repr

def ScreenDeclaration.screen (declared : ScreenDeclaration) : Screen where
  name := declared.name
  title := declared.title
  text := declared.text.toList
  scripts := declared.scripts.scripts
  choices := declared.choices.map (·.choice)

structure ForkDeclaration where
  condition : Lines := .many []
  action : Lines
deriving DecidableEq, Repr

def ForkDeclaration.fork (declared : ForkDeclaration) : Fork where
  condition := declared.condition.toList
  action := declared.action.toList

structure RelayDeclaration where
  name : String
  scripts : ScriptsDeclaration := {}
  forks : List ForkDeclaration := []
deriving DecidableEq, Repr

def RelayDeclaration.relay (declared : RelayDeclaration) : Relay where
  name := declared.name
  scripts := declared.scripts.scripts
  forks := declared.forks.map (·.fork)

/-- A document as a whole. -/
structure Document where
  name : String
  title : String := ""
  /-- The name of the first screen. -/
  start : String
  items : Registry ItemDeclaration := .empty
  recipes : Registry RecipeDeclaration := .empty
  defaults : Registry VariableDeclaration := .empty
  screens : List ScreenDeclaration := []
  relays : List RelayDeclaration := []

/-- The story that a document declares. -/
def Document.quest (document : Document) : Quest where
  name := document.name
  title := document.title
  start := document.start
  items := document.items.map ItemDeclaration.title
  recipes := document.recipes
  defaults := document.defaults.map VariableDeclaration.value
  screens := document.screens.map (·.screen)
  relays := document.relays.map (·.relay)

end Narrative
