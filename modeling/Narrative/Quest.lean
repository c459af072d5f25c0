import Narrative.Recipe.Shorthand
import Narrative.Relay

/-!
# Quest — a story as it is taken in

What a document declares, everything in the one form in which graphs hold it.
-/

namespace Narrative

/-- The declarations of a story. Nothing is checked yet: names may repeat or lead nowhere. -/
structure Quest where
  name : String
  title : String := ""
  /-- The name of the first screen. -/
  start : String
  /-- The titles of the items. -/
  items : Registry String := .empty
  recipes : Registry RecipeDeclaration := .empty
  /-- The values that the variables start with. -/
  defaults : Registry Value := .empty
  screens : List Screen := []
  relays : List Relay := []

end Narrative
