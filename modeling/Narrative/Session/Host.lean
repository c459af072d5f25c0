import Narrative.Session.Navigation
import Narrative.Session.View

/-!
# Session.Host — what a host can do with a session
-/

namespace Narrative

namespace Play

variable {ε : Type}

/-- Starts the story: enters its first screen by way of `go` and clears the message. If that fails
before any screen was entered, the session stays as if not started. -/
def startBy (go : Destination → Play ActionError Unit) : Play SessionError Unit := do
  let world ← world
  let name := world.graph.start
  match world.graph.screenIndex? name with
  | none => do
    note (.noStartScreen world.graph.name name)
    fail (.missingStartScreen name)
  | some index => do
    note (.starting world.graph.name name)
    update fun state => { state with phase := .active }
    match ← attempt (go (.screen index)) with
    | .ok _ => clearMessage
    -- a session that failed before its first screen may be started again
    | .error error => do
      update fun state =>
        { state with phase := if state.current.isNone then .notStarted else state.phase }
      fail (.action error)

/-- Starts the story. -/
def start : Play SessionError Unit := startBy go

/-- Selects one of the choices that are open now, whose action leads on by way of `go`. A position
beyond them does nothing. -/
def selectChoiceBy (go : Destination → Play ActionError Unit) (index : Nat) :
    Play SessionError Unit := do
  let world ← world
  let state ← state
  match state.currentScreen? world with
  | none => pure ()
  | some screen => do
    noteRemarks (Choice.remarks (state.context world) screen.choices)
    match Choice.available (state.context world) screen.choices with
    | .error error => fail (.expr error)
    | .ok choices =>
      match choices[index]? with
      | none => pure ()
      | some choice => do
        note (.choiceSelected choice.title)
        clearMessage
        -- the choice is told of last, and not at all if its action fails
        mapError .action (Script.run go choice.action)
        emit (.choiceSelected choice)

/-- Selects one of the choices that are open now. -/
def selectChoice (index : Nat) : Play SessionError Unit := selectChoiceBy go index

/-- Whether an item is known. An unknown one is noted. -/
def knowsItem (item : String) : Play ε Bool := do
  let world ← world
  if world.graph.hasItem item then return true
  else do
    note (.unknownItem item)
    return false

/-- Adds an amount of a known item, and tells whether the item is known. -/
def addItem (item : String) (amount : Amount) : Play ε Bool := do
  if ← knowsItem item then do
    let state ← state
    setInventory (state.inventory.add item amount)
    return true
  else return false

/-- Takes an amount of a known item away, and tells whether that much was held. -/
def consumeItem (item : String) (amount : Amount) : Play ε Bool := do
  if ← knowsItem item then do
    let state ← state
    match state.inventory.consume? item amount with
    | some inventory => do
      setInventory inventory
      return true
    | none => return false
  else return false

/-- Takes the stack of a known item away, and tells whether there was one. -/
def removeItem (item : String) : Play ε Bool := do
  if ← knowsItem item then do
    let state ← state
    match state.inventory.remove? item with
    | some (_, inventory) => do
      setInventory inventory
      return true
    | none => return false
  else return false

/-- The amount held of an item. Asking for an unknown one is noted. -/
def countItem (item : String) : Play ε Amount := do
  let world ← world
  let state ← state
  noteRemarks [.counted item]
  return state.itemCount world item

/-- Adds a known recipe to the unlocked ones, and tells whether it is known. -/
def unlockRecipe (recipe : String) : Play ε Bool := do
  let world ← world
  let state ← state
  if world.graph.recipes.contains recipe then do
    -- a recipe that is unlocked already is listed once more
    setUnlocked (state.unlocked ++ [recipe])
    return true
  else do
    note (.unknownRecipe recipe)
    return false

/-- Takes the first entry of a recipe from the unlocked ones, and tells whether there was one. -/
def lockRecipe (recipe : String) : Play ε Bool := do
  let state ← state
  if recipe ∈ state.unlocked then do
    setUnlocked (state.unlocked.erase recipe)
    return true
  else return false

/-- Crafts the unlocked recipe at a position and shows what came of it. Nothing changes if there
is no such recipe or its ingredients are not held. -/
def useRecipe (index : Nat) : Play ε Bool := do
  let world ← world
  let state ← state
  match state.unlockedRecipe? world index with
  | some recipe =>
    if recipe.canCraft state.inventory then do
      setInventory (recipe.craft state.inventory)
      note (.crafted recipe.name)
      setMessage (world.craftedMessage recipe)
      return true
    else return false
  | none => return false

/-- Resolves the tags of a text against the session. -/
def prepareText (text : String) : Play ExprError String := do
  let world ← world
  let state ← state
  noteRemarks (Template.remarks (state.context world) text)
  ofExcept (Template.prepare (state.context world) text)

end Play

/-- Runs an operation on a session: its result, the session afterwards, and what happened. -/
def Session.run {ε α : Type} (session : Session) (play : Play ε α) :
    Except ε α × Session × Trace :=
  let outcome := play session.world session.state
  (outcome.result, { session with state := outcome.state }, outcome.trace)

end Narrative
