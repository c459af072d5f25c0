import Narrative.Session.Basic

/-!
# Session.View — what the player is shown
-/

namespace Narrative

/-- Stacks as a list of labels. -/
def World.stackList (world : World) (listed : List Stack) : String :=
  ", ".intercalate (listed.map fun stack =>
    Stack.label (world.graph.itemTitle stack.item) stack.amount)

/-- The line of a recipe: results, ingredients, and whether it can be crafted now. -/
def World.recipeLine (world : World) (inventory : Inventory) (recipe : Recipe) : String :=
  let texts := world.settings.texts
  let status := if recipe.canCraft inventory then texts.craftable else texts.missing
  world.stackList recipe.results ++ " (" ++ texts.needs ++ ": " ++
    world.stackList recipe.ingredients ++ ", " ++ status ++ ")"

def World.craftedMessage (world : World) (recipe : Recipe) : String :=
  world.settings.texts.crafted ++ " " ++ world.stackList recipe.results

namespace Session

def recipeLines (session : Session) : List String :=
  (session.state.unlocked.filterMap session.world.graph.recipe?).map
    (session.world.recipeLine session.state.inventory)

/-- The numbered list of what is held, or the text for nothing. -/
def inventoryText (session : Session) : String :=
  let inventory := session.state.inventory
  if inventory.isEmpty then session.world.settings.texts.emptyInventory
  else
    "\n".intercalate (inventory.held.mapIdx fun index stack =>
      toString (index + 1) ++ ". " ++ session.world.graph.itemTitle stack.item ++
        " (" ++ toString stack.amount.toNat ++ ")")

/-- What expressions read in a session. -/
def context (session : Session) : Context := session.state.context session.world

def currentScreen? (session : Session) : Option Screen :=
  session.state.currentScreen? session.world

def availableChoices (session : Session) : Except ExprError (List Choice) :=
  session.state.availableChoices session.world

/-- The text of the current screen with its tags resolved, empty before the start. -/
def screenText (session : Session) : Except ExprError String :=
  match session.currentScreen? with
  | some screen => Template.prepare session.context screen.joinedText
  | none => .ok ""

end Session

end Narrative
