import Narrative.Proofs.Session.Outcome

/-!
# What a command can do

A command does one of three things, and `perform_performed` says that there is no fourth:

* **`Command.Fails`** — it fails at once, and nothing has happened yet.
* **`Command.Leads`** — it is noted and leads to a place; all that follows happens there.
* **`Command.Acts`** — it changes one part of the state and tells the host what it has to tell.

Later modules go by these cases and do not open the definitions of the verbs again.
-/

namespace Narrative

namespace Command

/-- The command fails at once, with this error. -/
inductive Fails (w : World) (s : State) : Command → ActionError → Prop
  | screen {name : String} (h : w.graph.screenIndex? name = none) :
      Fails w s (.jump name) (.unknownScreen name)
  | relay {name : String} (h : w.graph.relays.contains name = false) :
      Fails w s (.relay name) (.unknownRelay name)
  | give {item : String} {amount : Amount} (h : w.graph.hasItem item = false) :
      Fails w s (.give item amount) (.unknownItem item)
  | consume {item : String} {amount : Amount} (h : w.graph.hasItem item = false) :
      Fails w s (.consume item amount) (.unknownItem item)
  | unlock {recipe : String} (h : w.graph.recipes.contains recipe = false) :
      Fails w s (.unlock recipe) (.unknownRecipe recipe)
  | lock {recipe : String} (h : w.graph.recipes.contains recipe = false) :
      Fails w s (.lock recipe) (.unknownRecipe recipe)
  | set {name expression : String} {assignment : Assignment} {error : ExprError}
      (h : Play.assignedValue (s.variableValue name) assignment expression = .error error) :
      Fails w s (.set name assignment expression) (.expr error)
  | nowhere {offset : Amount} (h : s.current = none) : Fails w s (.next offset) .noCurrentScreen
  | beyond {offset : Amount} {current : Nat} (hcurrent : s.current = some current)
      (h : w.graph.screens.length ≤ current + offset.toNat) :
      Fails w s (.next offset) (.outOfRange offset.toNat)

/-- The command leads to this place. -/
inductive Leads (w : World) (s : State) : Command → Destination → Prop
  | jump {name : String} {index : Nat} (h : w.graph.screenIndex? name = some index) :
      Leads w s (.jump name) (.screen index)
  | relay {name : String} (h : w.graph.relays.contains name = true) :
      Leads w s (.relay name) (.relay name)
  | next {offset : Amount} {current : Nat} (hcurrent : s.current = some current)
      (h : current + offset.toNat < w.graph.screens.length) :
      Leads w s (.next offset) (.screen (current + offset.toNat))

/-- The command has this trace and leaves this state behind, and leads nowhere. -/
inductive Acts (w : World) (s : State) : Command → Trace → State → Prop
  | message (text : String) :
      Acts w s (.message text)
        [⟨.notice (.deed (.message text)), s⟩, ⟨.change, { s with message := text }⟩,
          ⟨.event (.messageChanged text), { s with message := text }⟩]
        { s with message := text }
  | give {item : String} {amount : Amount} (h : w.graph.hasItem item = true) :
      Acts w s (.give item amount)
        [⟨.change, { s with inventory := s.inventory.add item amount }⟩,
          ⟨.notice (.deed (.give item amount)),
            { s with inventory := s.inventory.add item amount }⟩]
        { s with inventory := s.inventory.add item amount }
  | consume {item : String} {amount : Amount} {inventory : Inventory}
      (h : w.graph.hasItem item = true)
      (hheld : s.inventory.consume? item amount = some inventory) :
      Acts w s (.consume item amount)
        [⟨.change, { s with inventory := inventory }⟩,
          ⟨.notice (.deed (.consume item amount)), { s with inventory := inventory }⟩]
        { s with inventory := inventory }
  | spare {item : String} {amount : Amount} (h : w.graph.hasItem item = true)
      (hheld : s.inventory.consume? item amount = none) :
      Acts w s (.consume item amount) [⟨.notice (.deed (.spare item amount)), s⟩] s
  | unlock {recipe : String} (h : w.graph.recipes.contains recipe = true) :
      Acts w s (.unlock recipe)
        [⟨.change, { s with unlocked := s.unlocked ++ [recipe] }⟩,
          ⟨.notice (.deed (.unlock recipe)), { s with unlocked := s.unlocked ++ [recipe] }⟩]
        { s with unlocked := s.unlocked ++ [recipe] }
  | lock {recipe : String} (h : w.graph.recipes.contains recipe = true) :
      Acts w s (.lock recipe)
        [⟨.change, { s with unlocked := s.unlocked.erase recipe }⟩,
          ⟨.notice (.deed (.lock recipe)), { s with unlocked := s.unlocked.erase recipe }⟩]
        { s with unlocked := s.unlocked.erase recipe }
  | set {name expression : String} {assignment : Assignment} {value : Value}
      (h : Play.assignedValue (s.variableValue name) assignment expression = .ok value) :
      Acts w s (.set name assignment expression)
        [⟨.notice (.deed (.set name assignment expression value)), s⟩,
          ⟨.change, { s with values := s.values.insert name value }⟩]
        { s with values := s.values.insert name value }
  | exit :
      Acts w s .exit
        [⟨.notice (.deed .exit), s⟩, ⟨.change, { s with phase := .finished }⟩,
          ⟨.notice (.finished w.graph.name), { s with phase := .finished }⟩,
          ⟨.event (.questFinished w.graph.name), { s with phase := .finished }⟩]
        { s with phase := .finished }

/-- What performing a command comes to where the way to a place is `go`. -/
inductive Performed (go : Destination → Play ActionError Unit) (w : World) (s : State)
    (command : Command) : Outcome ActionError Unit → Prop
  | fails {error : ActionError} (h : Fails w s command error) :
      Performed go w s command ⟨.error error, s, []⟩
  | leads {destination : Destination} (deed : Deed) (h : Leads w s command destination) :
      Performed go w s command ((go destination w s).after [⟨.notice (.deed deed), s⟩])
  | acts {trace : Trace} {s' : State} (h : Acts w s command trace s') :
      Performed go w s command ⟨.ok (), s', trace⟩

end Command

namespace Play

variable (go : Destination → Play ActionError Unit) (w : World) (s : State)

/-! ## The verbs, one by one -/

/-- A jump leads to the screen of its name, or fails where there is none. -/
theorem jump_performed (screen : String) :
    Command.Performed go w s (.jump screen) (jump go screen w s) := by
  rw [jump, world_bind]
  cases h : w.graph.screenIndex? screen with
  | none => exact .fails (.screen h)
  | some index => exact .leads _ (.jump h)

/-- A relay is followed, or the command fails where there is none of its name. -/
theorem relay_performed (name : String) :
    Command.Performed go w s (.relay name) (relay go name w s) := by
  rw [relay, world_bind]
  cases h : w.graph.relays.contains name with
  | false => exact .fails (.relay h)
  | true => exact .leads _ (.relay h)

/-- Moving on leads to a later screen, or fails without a current screen or behind the last one. -/
theorem next_performed (offset : Amount) :
    Command.Performed go w s (.next offset) (next go offset.toNat w s) := by
  rw [next, world_bind, state_bind]
  cases hcurrent : s.current with
  | none => exact .fails (.nowhere hcurrent)
  | some current =>
      by_cases h : current + offset.toNat < w.graph.screens.length
      · simp only [h, if_true]
        exact .leads _ (.next hcurrent h)
      · simp only [h, if_false]
        exact .fails (.beyond hcurrent (Nat.le_of_not_lt h))

/-- Giving adds a known item and fails for an unknown one. -/
theorem give_performed (item : String) (amount : Amount) :
    Command.Performed go w s (.give item amount) (give item amount w s) := by
  rw [give, world_bind, state_bind]
  cases h : w.graph.hasItem item with
  | false => exact .fails (.give h)
  | true => exact .acts (.give h)

/-- Consuming takes a known item where there is enough, does nothing where there is not, and fails
for an unknown one. -/
theorem consume_performed (item : String) (amount : Amount) :
    Command.Performed go w s (.consume item amount) (consume item amount w s) := by
  rw [consume, world_bind, state_bind]
  cases h : w.graph.hasItem item with
  | false => exact .fails (.consume h)
  | true =>
      cases hheld : s.inventory.consume? item amount with
      | none => exact .acts (.spare h hheld)
      | some inventory => exact .acts (.consume h hheld)

/-- Unlocking adds a known recipe and fails for an unknown one. -/
theorem unlock_performed (recipe : String) :
    Command.Performed go w s (.unlock recipe) (unlock recipe w s) := by
  rw [unlock, world_bind, state_bind]
  cases h : w.graph.recipes.contains recipe with
  | false => exact .fails (.unlock h)
  | true => exact .acts (.unlock h)

/-- Locking takes a known recipe away and fails for an unknown one. -/
theorem lock_performed (recipe : String) :
    Command.Performed go w s (.lock recipe) (lock recipe w s) := by
  rw [lock, world_bind, state_bind]
  cases h : w.graph.recipes.contains recipe with
  | false => exact .fails (.lock h)
  | true => exact .acts (.lock h)

/-- An assignment gives the variable its value, or fails as the expression or the operator does. -/
theorem assign_performed (name : String) (assignment : Assignment) (expression : String) :
    Command.Performed go w s (.set name assignment expression)
      (assign name assignment expression w s) := by
  rw [assign, state_bind]
  cases h : assignedValue (s.variableValue name) assignment expression with
  | error error => exact .fails (.set h)
  | ok value => exact .acts (.set h)

/-- **There is no fourth case.** Every command fails at once, leads to a place, or acts on the
state, as the three relations say. -/
theorem perform_performed (command : Command) :
    Command.Performed go w s command (perform go command w s) := by
  cases command with
  | jump screen => exact jump_performed go w s screen
  | relay name => exact relay_performed go w s name
  | message text => exact .acts (.message text)
  | give item amount => exact give_performed go w s item amount
  | consume item amount => exact consume_performed go w s item amount
  | unlock recipe => exact unlock_performed go w s recipe
  | lock recipe => exact lock_performed go w s recipe
  | set name assignment expression => exact assign_performed go w s name assignment expression
  | exit => exact .acts .exit
  | next offset => exact next_performed go w s offset

variable {go w s}

/-- The other way round, a command that can fail at once does. -/
theorem perform_of_fails {command : Command} {error : ActionError} (h : command.Fails w s error) :
    perform go command w s = ⟨.error error, s, []⟩ := by
  cases h with
  | screen h => rw [perform, jump, world_bind, h]; rfl
  | relay h => rw [perform, relay, world_bind, h]; rfl
  | give h => rw [perform, give, world_bind, state_bind, h]; rfl
  | consume h => rw [perform, consume, world_bind, state_bind, h]; rfl
  | unlock h => rw [perform, unlock, world_bind, state_bind, h]; rfl
  | lock h => rw [perform, lock, world_bind, state_bind, h]; rfl
  | set h => rw [perform, assign, state_bind, h]; rfl
  | nowhere h => rw [perform, next, world_bind, state_bind, h]; rfl
  | beyond hcurrent h =>
      rw [perform, next, world_bind, state_bind, hcurrent]
      dsimp only
      -- the only command that counts: its guard is a comparison and no look-up
      rw [if_neg (Nat.not_lt.mpr h)]
      rfl

/-- And one that can act does that. -/
theorem perform_of_acts {command : Command} {trace : Trace} {s' : State}
    (h : command.Acts w s trace s') : perform go command w s = ⟨.ok (), s', trace⟩ := by
  cases h with
  | message text => rfl
  | give h => rw [perform, give, world_bind, state_bind, h]; rfl
  | consume h hheld => rw [perform, consume, world_bind, state_bind, h, hheld]; rfl
  | spare h hheld => rw [perform, consume, world_bind, state_bind, h, hheld]; rfl
  | unlock h => rw [perform, unlock, world_bind, state_bind, h]; rfl
  | lock h => rw [perform, lock, world_bind, state_bind, h]; rfl
  | set h => rw [perform, assign, state_bind, h]; rfl
  | exit => rfl

/-- A source that is no command fails with the reason. -/
theorem performSource_of_error {source : String} {error : CommandError}
    (h : Command.parse source = .error error) :
    performSource go source w s = ⟨.error (.command error), s, []⟩ := by
  rw [performSource, h]
  rfl

/-- A source that is a command does what the command does. -/
theorem performSource_of_ok {source : String} {command : Command}
    (h : Command.parse source = .ok command) :
    performSource go source w s = perform go command w s := by
  rw [performSource, h]

end Play

end Narrative
