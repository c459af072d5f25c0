import Narrative.Session.Script

/-!
# Session.Navigation — entering places

Entering a screen runs its scripts, makes it the current one and tells the host. Its scripts may
lead on to other places; those entries are over before the screen becomes current, so the
outermost entry decides where the player ends up. Entering a relay runs its scripts and then the
action of the first fork whose guard holds.

Entries nest no deeper than the hop limit. `enter` recurses on the room that the limit leaves.
-/

namespace Narrative.Play

/-- Marks a screen as seen and runs its scripts, `once` only if it was not seen before. -/
def stageScreen (go : Destination → Play ActionError Unit) (index : Nat) (screen : Screen) :
    Play ActionError Unit := do
  let before ← state
  if index ∈ before.seenScreens then Script.run go screen.scripts.always
  else do
    update fun state => { state with seenScreens := index :: state.seenScreens }
    Script.run go screen.scripts.once
    Script.run go screen.scripts.always

/-- Marks a relay as seen and runs its scripts, `once` only if it was not seen before. -/
def stageRelay (go : Destination → Play ActionError Unit) (relay : Relay) (name : String) :
    Play ActionError Unit := do
  let before ← state
  if name ∈ before.seenRelays then Script.run go relay.scripts.always
  else do
    update fun state => { state with seenRelays := name :: state.seenRelays }
    Script.run go relay.scripts.once
    Script.run go relay.scripts.always

def visitScreen (go : Destination → Play ActionError Unit) (index : Nat) :
    Play ActionError Unit := do
  let world ← world
  match world.graph.screen? index with
  | none => fail (.outOfRange index)
  | some screen => do
    stageScreen go index screen
    -- the scripts may have led elsewhere, but the outer visit ends here
    update fun state => { state with current := some index }
    note (.screenChanged screen.label)
    emit (.screenChanged screen)

/-- Takes the first fork whose guard holds. -/
def takeFork (go : Destination → Play ActionError Unit) (relay : Relay) (name : String) :
    Play ActionError Unit := do
  let world ← world
  let state ← state
  let ctx := state.context world
  -- the guards are read behind the scripts of the relay
  noteRemarks (Fork.remarks ctx relay.forks)
  match relay.selectFork ctx with
  | .error error => fail (.expr error)
  | .ok none => note (.noForkMatched name)
  | .ok (some index) => Script.run go ((relay.forks[index]?.map (·.action)).getD [])

def visitRelay (go : Destination → Play ActionError Unit) (name : String) :
    Play ActionError Unit := do
  let world ← world
  match world.graph.relay? name with
  | none => fail (.unknownRelay name)
  | some relay => do
    stageRelay go relay name
    takeFork go relay name

def visit (go : Destination → Play ActionError Unit) : Destination → Play ActionError Unit
  | .screen index => visitScreen go index
  | .relay name => visitRelay go name

/-- Runs an operation one level deeper, and comes back up also if it fails. -/
def deeper (play : Play ActionError Unit) : Play ActionError Unit := do
  update fun state => { state with depth := state.depth + 1 }
  let result ← attempt play
  update fun state => { state with depth := state.depth - 1 }
  ofExcept result

/-- Refuses to enter another place. -/
def refuseEntry : Play ActionError Unit := do
  let world ← world
  note (.tooManyHops world.settings.maxHops)
  fail (.navigationLoop world.settings.maxHops)

/-- Enters a place where there is room for this many entries inside one another. -/
def enter : Nat → Destination → Play ActionError Unit
  | 0, _ => refuseEntry
  | room + 1, destination => deeper (visit (enter room) destination)

/-- Enters a place within the room that the hop limit leaves at the current depth. -/
def go (destination : Destination) : Play ActionError Unit := fun world state =>
  enter (world.settings.maxHops - state.depth) destination world state

def dispatch (command : Command) : Play ActionError Unit := perform go command

def execute (script : Script) : Play ActionError Unit := Script.run go script

end Narrative.Play
