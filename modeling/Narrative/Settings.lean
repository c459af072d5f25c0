/-!
# Settings — what a host may tune
-/

namespace Narrative

/-- The texts that the player sees outside the story. -/
structure Texts where
  /-- Stands for the list of what is held when nothing is. -/
  emptyInventory : String := "Empty"
  /-- Precedes the results in the message after a craft. -/
  crafted : String := "You crafted"
  /-- Precedes the ingredients of a recipe. -/
  needs : String := "needs"
  craftable : String := "can craft"
  missing : String := "missing ingredients"
deriving DecidableEq, Repr

/-- The settings of a session. -/
structure Settings where
  /-- How many entries of screens and relays may be nested in one another. -/
  maxHops : Nat := 64
  texts : Texts := {}
deriving DecidableEq, Repr

end Narrative
