import Narrative.Quest

/-!
# Validation — what is wrong with a document

Flaws of a story that can be seen without reading its scripts: repeated names, references that
lead nowhere, recipes that are none, and names that are missing.
-/

namespace Narrative

/-- The kinds of things with names. -/
inductive EntryKind where
  | item
  | recipe
  | screen
  | relay
deriving DecidableEq, Repr

/-- The name of a kind in messages. -/
def EntryKind.name : EntryKind → String
  | .item => "item"
  | .recipe => "recipe"
  | .screen => "screen"
  | .relay => "relay"

/-- Where a reference stands. -/
inductive ReferencePlace where
  | questStart
  | recipe (name : String)
deriving DecidableEq, Repr

def ReferencePlace.text : ReferencePlace → String
  | .questStart => "quest startScreen"
  | .recipe name => "recipe '" ++ name ++ "'"

/-- A name that is missing. -/
inductive MissingName where
  | quest
  | questStart
  /-- The relay at this position in the document. -/
  | relay (index : Nat)
deriving DecidableEq, Repr

def MissingName.text : MissingName → String
  | .quest => "quest internalName missing"
  | .questStart => "quest startScreen missing"
  | .relay index => "relay #" ++ toString index ++ " has no internalName"

/-- What is wrong with a document. -/
inductive Flaw where
  | duplicate (kind : EntryKind) (name : String)
  | missingReference (kind : EntryKind) (name : String) (place : ReferencePlace)
  | malformedRecipe (recipe : String) (reason : ShorthandError)
  | missingName (missing : MissingName)
deriving DecidableEq, Repr

def Flaw.text : Flaw → String
  | .duplicate kind name => "duplicate " ++ kind.name ++ " id '" ++ name ++ "'"
  | .missingReference kind name place =>
    "missing " ++ kind.name ++ " '" ++ name ++ "' (" ++ place.text ++ ")"
  | .malformedRecipe recipe reason =>
    "malformed recipe '" ++ recipe ++ "': " ++ reason.message
  | .missingName missing => "invalid value (" ++ missing.text ++ ")"

/-- The names that stand in a list once more, each time they do. -/
def repeatedNames (seen : List String) : List String → List String
  | [] => []
  | name :: rest =>
    if name ∈ seen then name :: repeatedNames seen rest else repeatedNames (name :: seen) rest

/-- Whether a name has nothing but white space. -/
def isBlankName (name : String) : Bool := name.toList.all Text.isBlank

namespace Quest

/-- The names of the named screens, in order. -/
def screenNames (quest : Quest) : List String := quest.screens.filterMap (·.name)

/-- The names of the relays, in order. -/
def relayNames (quest : Quest) : List String := quest.relays.map (·.name)

/-- The flaws of the name of the first screen. -/
def startFlaws (quest : Quest) : List Flaw :=
  if isBlankName quest.start then [.missingName .questStart]
  else if quest.start ∈ quest.screenNames then []
  else [.missingReference .screen quest.start .questStart]

/-- The items of a recipe that are not declared, ingredients first. -/
def undeclaredItems (quest : Quest) (parts : RecipeParts) : List String :=
  ((parts.ingredients ++ parts.results).map (·.item)).filter (!quest.items.contains ·)

/-- The flaws of a declared recipe. -/
def recipeFlaws (quest : Quest) (name : String) (declaration : RecipeDeclaration) : List Flaw :=
  match declaration.parts with
  | .ok parts =>
    (quest.undeclaredItems parts).map fun item => .missingReference .item item (.recipe name)
  | .error reason => [.malformedRecipe name reason]

def relayFlaws (quest : Quest) : List Flaw :=
  (quest.relays.mapIdx fun index relay =>
    if isBlankName relay.name then [Flaw.missingName (.relay index)] else []).flatten

def flaws (quest : Quest) : List Flaw :=
  (repeatedNames [] quest.screenNames).map (.duplicate .screen) ++
  (repeatedNames [] quest.relayNames).map (.duplicate .relay) ++
  (if isBlankName quest.name then [.missingName .quest] else []) ++
  quest.startFlaws ++
  quest.relayFlaws ++
  quest.recipes.entries.flatMap fun entry => quest.recipeFlaws entry.1 entry.2

end Quest

end Narrative
