import Narrative.Graph
import Narrative.Settings
import Narrative.Template

/-!
# Session.Basic — the state of one play

A `Session` pairs the `World`, which playing never changes, with the `State`, which holds all
that does. This module has the state and what can be read off it.
-/

namespace Narrative

/-- What a session is played over. -/
structure World where
  graph : Graph
  settings : Settings := {}

/-- The phases of a session. -/
inductive Phase where
  | notStarted
  | active
  | finished
deriving DecidableEq, Repr

/-- All that changes while a story is played. -/
structure State where
  phase : Phase := .notStarted
  inventory : Inventory := .empty
  values : Registry Value := .empty
  /-- The position of the current screen. -/
  current : Option Nat := none
  /-- The positions of the screens entered so far. -/
  seenScreens : List Nat := []
  /-- The names of the relays entered so far. -/
  seenRelays : List String := []
  /-- The names of the unlocked recipes, in the order of unlocking, repetitions kept. -/
  unlocked : List String := []
  /-- The message that is shown with the current choices. -/
  message : String := ""
  /-- How many entries of screens and relays are going on inside one another. -/
  depth : Nat := 0

/-- The state before a story starts: the variables have their defaults. -/
def State.initial (world : World) : State := { values := world.graph.defaults }

/-- One play of a story. -/
structure Session where
  world : World
  state : State

def Session.new (graph : Graph) (settings : Settings := {}) : Session :=
  let world : World := { graph, settings }
  { world, state := .initial world }

namespace State

def variableValue (state : State) (name : String) : Value :=
  (state.values.get? name).getD .null

/-- The amount held of an item. An unknown item counts zero. -/
def itemCount (world : World) (state : State) (item : String) : Amount :=
  if world.graph.hasItem item then state.inventory.amountOf item else 0

/-- What expressions read during a session. -/
def context (world : World) (state : State) : Context where
  item name := .ok (state.itemCount world name)
  var name := .ok (state.variableValue name)

def currentScreen? (world : World) (state : State) : Option Screen :=
  state.current.bind world.graph.screen?

/-- The choices of the current screen whose guards hold. -/
def availableChoices (world : World) (state : State) : Except ExprError (List Choice) :=
  match state.currentScreen? world with
  | some screen => Choice.available (state.context world) screen.choices
  | none => .ok []

/-- The recipe at a position of the unlocked ones. -/
def unlockedRecipe? (world : World) (state : State) (index : Nat) : Option Recipe :=
  state.unlocked[index]?.bind world.graph.recipe?

/-- Whether there is an unlocked recipe at a position and its ingredients are held. -/
def canUseRecipe (world : World) (state : State) (index : Nat) : Bool :=
  (state.unlockedRecipe? world index).any (·.canCraft state.inventory)

end State

end Narrative
