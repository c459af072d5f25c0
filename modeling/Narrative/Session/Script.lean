import Narrative.Session.Play
import Narrative.Command.Parser

/-!
# Session.Script — what commands do

The effects of the commands, and scripts as sequences of them. Where a command leads to another
place, the way there is a parameter `go`, so that nothing here recurses through places.
-/

namespace Narrative

/-- A place to go to. -/
inductive Destination where
  | screen (index : Nat)
  | relay (name : String)
deriving DecidableEq, Repr

namespace Play

variable {ε : Type}

/-- Makes a text the pending message. -/
def setMessage (text : String) : Play ε Unit := do
  update fun state => { state with message := text }
  emit (.messageChanged text)

def clearMessage : Play ε Unit := setMessage ""

def finish : Play ε Unit := do
  let world ← world
  update fun state => { state with phase := .finished }
  note (.finished world.graph.name)
  emit (.questFinished world.graph.name)

def setVariable (name : String) (value : Value) : Play ε Unit :=
  update fun state => { state with values := state.values.insert name value }

def setInventory (inventory : Inventory) : Play ε Unit :=
  update fun state => { state with inventory := inventory }

def setUnlocked (unlocked : List String) : Play ε Unit :=
  update fun state => { state with unlocked := unlocked }

def jump (go : Destination → Play ActionError Unit) (screen : String) :
    Play ActionError Unit := do
  let world ← world
  match world.graph.screenIndex? screen with
  | some index => do
    note (.deed (.jump screen))
    go (.screen index)
  | none => fail (.unknownScreen screen)

/-- Goes to the screen at an offset from the current one. -/
def next (go : Destination → Play ActionError Unit) (offset : Nat) : Play ActionError Unit := do
  let world ← world
  let state ← state
  match state.current with
  | some current =>
    if current + offset < world.graph.screens.length then do
      note (.deed (.next offset (current + offset)))
      go (.screen (current + offset))
    else fail (.outOfRange offset)
  | none => fail .noCurrentScreen

def relay (go : Destination → Play ActionError Unit) (name : String) : Play ActionError Unit := do
  let world ← world
  if world.graph.relays.contains name then do
    note (.deed (.relay name))
    go (.relay name)
  else fail (.unknownRelay name)

def showMessage (text : String) : Play ActionError Unit := do
  note (.deed (.message text))
  setMessage text

def give (item : String) (amount : Amount) : Play ActionError Unit := do
  let world ← world
  let state ← state
  if world.graph.hasItem item then do
    setInventory (state.inventory.add item amount)
    note (.deed (.give item amount))
  else fail (.unknownItem item)

/-- Takes an amount of an item away, or nothing if less is held. -/
def consume (item : String) (amount : Amount) : Play ActionError Unit := do
  let world ← world
  let state ← state
  if world.graph.hasItem item then
    match state.inventory.consume? item amount with
    | some inventory => do
      setInventory inventory
      note (.deed (.consume item amount))
    -- too little is no error, and nothing is taken
    | none => note (.deed (.spare item amount))
  else fail (.unknownItem item)

/-- Adds a recipe to the unlocked ones, also if it is there already. -/
def unlock (recipe : String) : Play ActionError Unit := do
  let world ← world
  let state ← state
  if world.graph.recipes.contains recipe then do
    setUnlocked (state.unlocked ++ [recipe])
    note (.deed (.unlock recipe))
  else fail (.unknownRecipe recipe)

/-- Takes the first entry of a recipe from the unlocked ones, if there is one. -/
def lock (recipe : String) : Play ActionError Unit := do
  let world ← world
  let state ← state
  if world.graph.recipes.contains recipe then do
    setUnlocked (state.unlocked.erase recipe)
    note (.deed (.lock recipe))
  else fail (.unknownRecipe recipe)

/-- The value that `set` gives to a variable that holds `old`. The expression stands alone. -/
def assignedValue (old : Value) (assignment : Assignment) (expression : String) :
    Except ExprError Value := do
  let e ← Expr.parse expression
  let value ← e.eval .standalone
  match assignment.operator? with
  | none => return value
  | some op => op.apply old value

/-- Gives a variable the value of an expression, combined with its old value. -/
def assign (name : String) (assignment : Assignment) (expression : String) :
    Play ActionError Unit := do
  let state ← state
  match assignedValue (state.variableValue name) assignment expression with
  | .ok value => do
    note (.deed (.set name assignment expression value))
    setVariable name value
  | .error error => fail (.expr error)

def exit : Play ActionError Unit := do
  note (.deed .exit)
  finish

def perform (go : Destination → Play ActionError Unit) : Command → Play ActionError Unit
  | .jump screen => jump go screen
  | .relay name => relay go name
  | .message text => showMessage text
  | .give item amount => give item amount
  | .consume item amount => consume item amount
  | .unlock recipe => unlock recipe
  | .lock recipe => lock recipe
  | .set name assignment expression => assign name assignment expression
  | .exit => exit
  | .next offset => next go offset.toNat

/-- Reads a command and does what it asks for. -/
def performSource (go : Destination → Play ActionError Unit) (source : String) :
    Play ActionError Unit :=
  match Command.parse source with
  | .ok command => perform go command
  | .error error => fail (.command error)

end Play

/-- Performs the commands of a script in order. A command that fails is skipped, unless its error
is fatal: then the script ends there. -/
def Script.run (go : Destination → Play ActionError Unit) : Script → Play ActionError Unit
  | [] => pure ()
  | source :: rest => do
    match ← Play.attempt (Play.performSource go source) with
    | .ok _ => Script.run go rest
    | .error error =>
      -- other errors cost a script one command only
      if error.isFatal then Play.fail error
      else do
        Play.note (.skippedCommand source error)
        Script.run go rest

end Narrative
