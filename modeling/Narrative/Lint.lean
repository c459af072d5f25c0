import Narrative.Command.Parser
import Narrative.Graph
import Narrative.Validation

/-!
# Lint — what is wrong with scripts and guards

Looks at every script and guard of a graph before anyone plays it: commands that are none, targets
that do not exist, malformed expressions, and guards that read variables nothing ever sets.
-/

namespace Narrative

/-- The two scripts of a place. -/
inductive Stage where
  | once
  | always
deriving DecidableEq, Repr

/-- The name of a stage in messages. -/
def Stage.name : Stage → String
  | .once => "once"
  | .always => "always"

/-- Where a script stands in a graph. -/
inductive ScriptPlace where
  | screen (index : Nat) (label : String) (stage : Stage)
  | choice (index : Nat) (label : String) (number : Nat) (title : String)
  | relay (name : String) (stage : Stage)
  | fork (relay : String) (index : Nat)
deriving DecidableEq, Repr

namespace ScriptPlace

def screenText (index : Nat) (label : String) : String :=
  "screen #" ++ toString index ++ " '" ++ label ++ "'"

def text : ScriptPlace → String
  | .screen index label stage => screenText index label ++ " " ++ stage.name
  | .choice index label number title =>
    screenText index label ++ " choice #" ++ toString number ++ " '" ++ title ++ "'"
  | .relay name stage => "relay '" ++ name ++ "' " ++ stage.name
  | .fork owner index => "relay '" ++ owner ++ "' fork #" ++ toString index

end ScriptPlace

/-- What is wrong with a command or a guard. -/
inductive ScriptProblem where
  | badCommand (source : String) (error : CommandError)
  | badExpression (source : String) (error : ExprError)
  | unknownTarget (source : String) (kind : EntryKind) (name : String)
  | badGuard (error : ExprError)
  | undefinedVariable (source : String) (name : String)
deriving DecidableEq, Repr

def ScriptProblem.text : ScriptProblem → String
  | .badCommand source error => "\"" ++ source ++ "\": " ++ error.message
  | .badExpression source error => "\"" ++ source ++ "\": " ++ error.message
  | .unknownTarget source kind name =>
    "\"" ++ source ++ "\" refers to unknown " ++ kind.name ++ " '" ++ name ++ "'"
  | .badGuard error => error.message
  | .undefinedVariable source name =>
    "\"" ++ source ++ "\" reads variable '" ++ name ++ "', which has no default and is never set"

/-- Something that a player may run into. -/
inductive LoadWarning where
  | flaw (flaw : Flaw)
  | script (place : ScriptPlace) (problem : ScriptProblem)
deriving DecidableEq, Repr

def LoadWarning.text : LoadWarning → String
  | .flaw found => found.text
  | .script place problem => place.text ++ ": " ++ problem.text

/-- A script with its guard and its place. Scripts without a guard have the empty one. -/
structure ScriptSite where
  place : ScriptPlace
  condition : Condition := []
  script : Script

def Screen.sites (index : Nat) (screen : Screen) : List ScriptSite :=
  { place := .screen index screen.label .once, script := screen.scripts.once } ::
  { place := .screen index screen.label .always, script := screen.scripts.always } ::
  screen.choices.mapIdx fun number choice =>
    { place := .choice index screen.label number choice.title
      condition := choice.condition
      script := choice.action }

def Relay.sites (relay : Relay) : List ScriptSite :=
  { place := .relay relay.name .once, script := relay.scripts.once } ::
  { place := .relay relay.name .always, script := relay.scripts.always } ::
  relay.forks.mapIdx fun number fork =>
    { place := .fork relay.name number, condition := fork.condition, script := fork.action }

namespace Graph

/-- Every script of a graph: those of the screens in declared order, then those of the relays in
the order of their names. -/
def sites (graph : Graph) : List ScriptSite :=
  (graph.screens.mapIdx Screen.sites).flatten ++
    graph.relays.entries.flatMap fun entry => entry.2.sites

/-- The variable that a command sets. -/
def setTarget? (source : String) : Option String :=
  match Command.parse source with
  | .ok (.set name _ _) => some name
  | _ => none

/-- The variables that have a default or are set by some script. -/
def knownVariables (graph : Graph) : List String :=
  graph.defaults.names ++ graph.sites.flatMap fun site => site.script.filterMap setTarget?

/-- A problem, unless what it asks for was found. -/
def problemUnless (found : Bool) (problem : ScriptProblem) : Option ScriptProblem :=
  if found then none else some problem

/-- What is wrong with the source of a command. -/
def commandProblem? (graph : Graph) (source : String) : Option ScriptProblem :=
  match Command.parse source with
  | .error error => some (.badCommand source error)
  | .ok (.jump screen) =>
    problemUnless (graph.screenIndex? screen).isSome (.unknownTarget source .screen screen)
  | .ok (.relay name) =>
    problemUnless (graph.relays.contains name) (.unknownTarget source .relay name)
  | .ok (.give item _) => problemUnless (graph.hasItem item) (.unknownTarget source .item item)
  | .ok (.consume item _) => problemUnless (graph.hasItem item) (.unknownTarget source .item item)
  | .ok (.unlock recipe) =>
    problemUnless (graph.recipes.contains recipe) (.unknownTarget source .recipe recipe)
  | .ok (.lock recipe) =>
    problemUnless (graph.recipes.contains recipe) (.unknownTarget source .recipe recipe)
  | .ok (.set _ _ expression) =>
    -- the target needs no declaration, but the expression has to be readable
    match Expr.parse expression with
    | .ok _ => none
    | .error error => some (.badExpression source error)
  | .ok (.message _) | .ok .exit | .ok (.next _) => none

/-- What is wrong with one expression of a guard: it is malformed, or it reads variables that are
not known, each as often as it does. -/
def guardProblems (known : List String) (source : String) : List ScriptProblem :=
  match Expr.parse source with
  | .ok e => (e.variableNames.filter (!known.contains ·)).map (.undefinedVariable source)
  | .error error => [.badGuard error]

/-- The warnings about one script and its guard, the guard first. -/
def siteWarnings (graph : Graph) (known : List String) (site : ScriptSite) : List LoadWarning :=
  (site.condition.flatMap (guardProblems known) ++
    site.script.filterMap graph.commandProblem?).map (.script site.place)

/-- The warnings about all scripts and guards. -/
def lint (graph : Graph) : List LoadWarning :=
  graph.sites.flatMap (graph.siteWarnings graph.knownVariables)

end Graph

end Narrative
