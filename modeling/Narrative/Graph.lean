import Narrative.Registry
import Narrative.Recipe.Basic
import Narrative.Relay

/-!
# Graph — a story as it is played

A graph holds the items, recipes, variable defaults and places of a story and is not changed by
playing. It is filled by registering one thing after the other; a name that is registered again
stands for the later thing, while an earlier screen of that name stays at its position.
-/

namespace Narrative

/-- A story as it is played. -/
structure Graph where
  name : String
  title : String
  /-- The name of the first screen. -/
  start : String
  /-- The titles of the items. -/
  items : Registry String := .empty
  recipes : Registry Recipe := .empty
  /-- The values that the variables start with. -/
  defaults : Registry Value := .empty
  /-- Every screen in declared order, with or without a name. -/
  screens : List Screen := []
  /-- The positions of the named screens. -/
  screenNames : Registry Nat := .empty
  relays : Registry Relay := .empty

namespace Graph

/-- Registers an item under its name. -/
def addItem (graph : Graph) (name title : String) : Graph :=
  { graph with items := graph.items.insert name title }

def addRecipe (graph : Graph) (recipe : Recipe) : Graph :=
  { graph with recipes := graph.recipes.insert recipe.name recipe }

/-- Gives a variable the value that it starts with. -/
def addVariable (graph : Graph) (name : String) (value : Value) : Graph :=
  { graph with defaults := graph.defaults.insert name value }

/-- Appends a screen. Its name, if it has one, now leads to it. -/
def addScreen (graph : Graph) (screen : Screen) : Graph :=
  { graph with
    screens := graph.screens ++ [screen]
    screenNames := match screen.name with
      | some name => graph.screenNames.insert name graph.screens.length
      | none => graph.screenNames }

def addRelay (graph : Graph) (relay : Relay) : Graph :=
  { graph with relays := graph.relays.insert relay.name relay }

/-- Whether a screen would take over the name of an earlier one. -/
def repeatsScreen (graph : Graph) (screen : Screen) : Bool :=
  screen.name.any graph.screenNames.contains

/-- The title of an item, or its name if there is no such item. -/
def itemTitle (graph : Graph) (name : String) : String := (graph.items.get? name).getD name

def screenIndex? (graph : Graph) (name : String) : Option Nat := graph.screenNames.get? name

def screen? (graph : Graph) (index : Nat) : Option Screen := graph.screens[index]?

def screenNamed? (graph : Graph) (name : String) : Option Screen :=
  (graph.screenIndex? name).bind graph.screen?

def relay? (graph : Graph) (name : String) : Option Relay := graph.relays.get? name

def recipe? (graph : Graph) (name : String) : Option Recipe := graph.recipes.get? name

def hasItem (graph : Graph) (name : String) : Bool := graph.items.contains name

end Graph

end Narrative
