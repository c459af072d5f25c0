import Narrative.Expr.Basic

/-!
# Command.Basic — what an action script may ask for
-/

namespace Narrative

/-- The amount of an item, or a number of screens. -/
abbrev Amount := UInt32

/-- The verbs of commands. -/
inductive Verb where
  | jump
  | relay
  | message
  | give
  | consume
  | unlock
  | lock
  | set
  | exit
  | next
deriving DecidableEq, Repr

namespace Verb

def keyword : Verb → String
  | .jump => "jump"
  | .relay => "relay"
  | .message => "message"
  | .give => "give"
  | .consume => "consume"
  | .unlock => "unlock"
  | .lock => "lock"
  | .set => "set"
  | .exit => "exit"
  | .next => "next"

def all : List Verb :=
  [.jump, .relay, .message, .give, .consume, .unlock, .lock, .set, .exit, .next]

def ofKeyword? (keyword : String) : Option Verb := all.find? (·.keyword == keyword)

end Verb

/-- How `set` combines a variable with the value of its expression. -/
inductive Assignment where
  | assign
  | add
  | sub
  | mul
  | div
deriving DecidableEq, Repr

namespace Assignment

def symbol : Assignment → String
  | .assign => "="
  | .add => "+="
  | .sub => "-="
  | .mul => "*="
  | .div => "/="

def all : List Assignment := [.assign, .add, .sub, .mul, .div]

def ofSymbol? (symbol : String) : Option Assignment := all.find? (·.symbol == symbol)

/-- The operator that combines the old value with the new one; plain assignment has none. -/
def operator? : Assignment → Option BinaryOp
  | .assign => none
  | .add => some .add
  | .sub => some .sub
  | .mul => some .mul
  | .div => some .div

end Assignment

/-- A command of an action script. -/
inductive Command where
  | jump (screen : String)
  | relay (name : String)
  | message (text : String)
  | give (item : String) (amount : Amount)
  | consume (item : String) (amount : Amount)
  | unlock (recipe : String)
  | lock (recipe : String)
  | set (name : String) (assignment : Assignment) (expression : String)
  | exit
  | next (offset : Amount)
deriving DecidableEq, Repr

def Command.verb : Command → Verb
  | .jump _ => .jump
  | .relay _ => .relay
  | .message _ => .message
  | .give _ _ => .give
  | .consume _ _ => .consume
  | .unlock _ => .unlock
  | .lock _ => .lock
  | .set _ _ _ => .set
  | .exit => .exit
  | .next _ => .next

/-- What an argument of a command stands for. -/
inductive Parameter where
  | screen
  | relay
  | text
  | item
  | amount
  | recipe
  | variable
  | operator
  | expression
deriving DecidableEq, Repr

/-- The name of a parameter in messages. -/
def Parameter.name : Parameter → String
  | .screen => "screen"
  | .relay => "relay"
  | .text => "text"
  | .item => "item"
  | .amount => "amount"
  | .recipe => "recipe"
  | .variable => "variable"
  | .operator => "operator"
  | .expression => "expression"

/-- Why a source is no command. -/
inductive CommandError where
  | empty
  | unknownVerb (verb : String)
  | missingArgument (verb : Verb) (parameter : Parameter)
  | badArgument (verb : Verb) (parameter : Parameter) (value : String)
deriving DecidableEq, Repr

def CommandError.message : CommandError → String
  | .empty => "empty command"
  | .unknownVerb verb => "unknown verb '" ++ verb ++ "'"
  | .missingArgument verb parameter =>
    "'" ++ verb.keyword ++ "' is missing its " ++ parameter.name ++ " argument"
  | .badArgument verb parameter value =>
    "'" ++ verb.keyword ++ "' got a bad " ++ parameter.name ++ ": '" ++ value ++ "'"

end Narrative
