import Narrative.Document.Basic
import Narrative.Document.Decode
import Narrative.Document.Json
import Narrative.Document.Ron
import Narrative.Document.Toml
import Narrative.Settings

/-!
# Document.Quest — reading stories and settings

The fields of the records that make up a document, and the places that allow several forms. A
table or list in such a place must be sound as a whole, since its form is only decided once it is
read.
-/

namespace Narrative.Decode

/-! ## Places with several forms -/

/-- One text, or a list of texts. -/
def lines (datum : Datum) : Option Lines :=
  match looseText datum with
  | some s => some (.one s)
  | none => (looseTexts datum).map .many

/-- A map of amounts in a place with several forms. -/
def amounts : Datum → Option (Registry Amount) :=
  looseMap fun datum => (natBelow UInt32.size datum).map UInt32.ofNat

/-- An item: the text of its title, or a table with a title. -/
def item (datum : Datum) : Option ItemDeclaration :=
  match looseText datum with
  | some s => some (.short s)
  | none => do
    match ← looseFields ["title"] datum with
    | [title] => return .detailed (← required looseText title)
    | _ => none

/-- A recipe: its shorthand, or a table of its amounts. -/
def recipe (datum : Datum) : Option RecipeDeclaration :=
  match looseText datum with
  | some s => some (.shorthand s)
  | none => do
    match ← looseFields ["ingredients", "results"] datum with
    | [ingredients, results] =>
      return .amounts (← required amounts ingredients) (← orDefault .empty amounts results)
    | _ => none

/-- The value that a variable starts with. -/
def variableValue : Datum → Option VariableDeclaration
  | .bool b => some (.bool b)
  | datum =>
    match looseText datum with
    | some s => some (.text s)
    | none => datum.toFloat?.map .number

/-! ## Records -/

def stageScripts (conv : Conventions) (datum : Datum) : Option ScriptsDeclaration := do
  match ← fields conv "ActionsDef" ["once", "always"] datum with
  | [once, always] =>
    return {
      once := ← orDefault (.many []) lines once
      always := ← orDefault (.many []) lines always }
  | _ => none

def choice (conv : Conventions) (datum : Datum) : Option ChoiceDeclaration := do
  match ← fields conv "ChoiceDef" ["title", "condition", "action"] datum with
  | [title, condition, action] =>
    return {
      title := ← required text title
      condition := ← orDefault (.many []) lines condition
      action := ← required lines action }
  | _ => none

def screen (conv : Conventions) (datum : Datum) : Option ScreenDeclaration := do
  match ← fields conv "ScreenDef" ["internalName", "title", "text", "actions", "choices"] datum with
  | [name, title, content, actions, choices] =>
    return {
      name := ← orDefault none (optionalText conv) name
      title := ← orDefault "" text title
      text := ← orDefault (.many []) lines content
      scripts := ← orDefault {} (stageScripts conv) actions
      choices := ← orDefault [] (list (choice conv)) choices }
  | _ => none

def fork (conv : Conventions) (datum : Datum) : Option ForkDeclaration := do
  match ← fields conv "ForkDef" ["condition", "action"] datum with
  | [condition, action] =>
    return {
      condition := ← orDefault (.many []) lines condition
      action := ← required lines action }
  | _ => none

def relay (conv : Conventions) (datum : Datum) : Option RelayDeclaration := do
  match ← fields conv "RelayDef" ["internalName", "actions", "forks"] datum with
  | [name, actions, forks] =>
    return {
      name := ← required text name
      scripts := ← orDefault {} (stageScripts conv) actions
      forks := ← orDefault [] (list (fork conv)) forks }
  | _ => none

def document (conv : Conventions) (datum : Datum) : Option Document := do
  match ← fields conv "QuestDef" ["internalName", "title", "startScreen", "items", "recipes",
      "variables", "screens", "relays"] datum with
  | [name, title, start, items, recipes, defaults, screens, relays] =>
    return {
      name := ← required text name
      title := ← orDefault "" text title
      start := ← required text start
      items := ← orDefault .empty (map item) items
      recipes := ← orDefault .empty (map recipe) recipes
      defaults := ← orDefault .empty (map variableValue) defaults
      screens := ← orDefault [] (list (screen conv)) screens
      relays := ← orDefault [] (list (relay conv)) relays }
  | _ => none

/-- The texts of the settings, each with its own default. -/
def texts (conv : Conventions) (datum : Datum) : Option Texts := do
  let given : Texts := {}
  match ← fields conv "Texts" ["empty_inventory", "crafted", "needs", "craftable", "missing"]
      datum with
  | [emptyInventory, crafted, needs, craftable, missing] =>
    return {
      emptyInventory := ← orDefault given.emptyInventory text emptyInventory
      crafted := ← orDefault given.crafted text crafted
      needs := ← orDefault given.needs text needs
      craftable := ← orDefault given.craftable text craftable
      missing := ← orDefault given.missing text missing }
  | _ => none

/-- Settings, each with its own default. -/
def settings (conv : Conventions) (datum : Datum) : Option Settings := do
  let given : Settings := {}
  match ← fields conv "Settings" ["max_hops", "texts"] datum with
  | [maxHops, content] =>
    return {
      maxHops := ← orDefault given.maxHops (natBelow UInt64.size) maxHops
      texts := ← orDefault given.texts (texts conv) content }
  | _ => none

end Narrative.Decode

namespace Narrative

/-- Reads a document in a syntax. -/
def Document.read? (format : Format) (text : String) : Option Document :=
  match format with
  | .json => do Decode.document Format.json.conventions (← Json.read? text)
  | .toml => do Decode.document Format.toml.conventions (← Toml.read? text)
  -- the text itself may switch two of the conventions
  | .ron => do
    let (extensions, datum) ← Ron.read? text
    let conventions := { Format.ron.conventions with
      markedOptions := !extensions.contains Ron.implicitSome
      namedRecords := extensions.contains Ron.explicitNames }
    Decode.document conventions datum

/-- Reads the story of a document in a syntax. -/
def Quest.read? (format : Format) (text : String) : Option Quest :=
  (Document.read? format text).map (·.quest)

/-- Reads settings, which are written in TOML. -/
def Settings.read? (text : String) : Option Settings := do
  Decode.settings Format.toml.conventions (← Toml.read? text)

end Narrative
