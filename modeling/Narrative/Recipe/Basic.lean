import Narrative.Inventory

/-!
# Recipe.Basic — crafting
-/

namespace Narrative

/-- What one craft consumes and yields. -/
structure Recipe where
  name : String
  ingredients : List Stack
  results : List Stack
deriving DecidableEq, Repr

namespace Recipe

/-- Whether every ingredient is held in its amount. -/
def canCraft (recipe : Recipe) (inventory : Inventory) : Bool :=
  recipe.ingredients.all fun stack => stack.amount ≤ inventory.amountOf stack.item

/-- Consumes the ingredients and adds the results, without asking whether that is possible: an
ingredient that is not held in its amount stays. -/
def craft (recipe : Recipe) (inventory : Inventory) : Inventory :=
  let left := recipe.ingredients.foldl
    (fun inv stack => (inv.consume? stack.item stack.amount).getD inv) inventory
  recipe.results.foldl (fun inv stack => inv.add stack.item stack.amount) left

end Recipe

end Narrative
