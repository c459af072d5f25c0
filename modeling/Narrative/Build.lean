import Narrative.Lint
import Narrative.Session.Notice

/-!
# Build — from documents to graphs

Building never fails: what is wrong with a document ends up in the warnings, and what cannot be
used is left out.
-/

namespace Narrative

/-- A record for the log of building graphs. -/
inductive BuildNotice where
  | repeated (kind : EntryKind) (name : String)
  | skippedRecipe (recipe item : String)
  | built (graph : Graph)
  | warned (quest : String) (warning : LoadWarning)

namespace BuildNotice

def severity : BuildNotice → Severity
  | .built _ => .info
  | _ => .warning

def text : BuildNotice → String
  | .repeated kind name =>
    kind.name ++ " '" ++ name ++ "' registered twice; keeping the later one"
  | .skippedRecipe recipe item =>
    "skipping recipe '" ++ recipe ++ "': unknown item '" ++ item ++ "'"
  | .built graph =>
    "quest '" ++ graph.name ++ "' built: " ++ toString graph.screens.length ++ " screens, " ++
      toString graph.relays.size ++ " relays, " ++ toString graph.items.size ++ " items, " ++
      toString graph.recipes.size ++ " recipes, " ++ toString graph.defaults.size ++ " variables"
  | .warned quest warning => "quest '" ++ quest ++ "': " ++ warning.text

end BuildNotice

namespace Quest

/-- The recipe that a declaration makes, if it is well formed and all its items are declared. -/
def recipe? (quest : Quest) (name : String) (declaration : RecipeDeclaration) : Option Recipe :=
  match declaration.parts with
  | .ok parts =>
    if (quest.undeclaredItems parts).isEmpty then
      some { name, ingredients := parts.ingredients, results := parts.results }
    else none
  | .error _ => none

/-- The recipes that can be used. -/
def recipeList (quest : Quest) : List Recipe :=
  quest.recipes.entries.filterMap fun entry => quest.recipe? entry.1 entry.2

def graph (quest : Quest) : Graph :=
  let base : Graph :=
    { name := quest.name, title := quest.title, start := quest.start
      items := quest.items, defaults := quest.defaults }
  let base := quest.recipeList.foldl Graph.addRecipe base
  let base := quest.screens.foldl Graph.addScreen base
  quest.relays.foldl Graph.addRelay base

/-- The warnings about a document and the scripts of its graph. -/
def warnings (quest : Quest) : List LoadWarning :=
  quest.flaws.map .flaw ++ quest.graph.lint

/-- The notice of a recipe that is left out because of an undeclared item. -/
def skipNotice? (quest : Quest) (name : String) (declaration : RecipeDeclaration) :
    Option BuildNotice :=
  match declaration.parts with
  | .ok parts => (quest.undeclaredItems parts).head?.map (.skippedRecipe name)
  | .error _ => none

/-- What building a document writes to the log. -/
def buildNotices (quest : Quest) : List BuildNotice :=
  (quest.recipes.entries.filterMap fun entry => quest.skipNotice? entry.1 entry.2) ++
  (repeatedNames [] quest.screenNames).map (.repeated .screen) ++
  (repeatedNames [] quest.relayNames).map (.repeated .relay) ++
  .built quest.graph :: quest.warnings.map (.warned quest.name)

end Quest

end Narrative
