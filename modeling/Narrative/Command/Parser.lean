import Narrative.Command.Basic
import Narrative.Command.Phrase
import Narrative.Text.Numeral

/-!
# Command.Parser — from words to commands

Every verb takes its arguments by position. Amounts default to one, and arguments behind the
last expected one are ignored, except that `message` and `set` take the rest of the line.
-/

namespace Narrative

def Amount.read? (text : String) : Option Amount :=
  (Text.readBelow? UInt32.size text.toList).map UInt32.ofNat

namespace Phrase

/-- The argument at a position, which has to be there. -/
def required (verb : Verb) (parameter : Parameter) (arguments : List String) (index : Nat) :
    Except CommandError String :=
  match arguments[index]? with
  | some argument => .ok argument
  | none => .error (.missingArgument verb parameter)

/-- The amount at a position, or one if there is none. -/
def amountOrOne (verb : Verb) (arguments : List String) (index : Nat) :
    Except CommandError Amount :=
  match arguments[index]? with
  | none => .ok 1
  | some argument =>
    match Amount.read? argument with
    | some amount => .ok amount
    | none => .error (.badArgument verb .amount argument)

/-- The assignment at the second position of `set`. -/
def assignment (arguments : List String) : Except CommandError Assignment := do
  let symbol ← required .set .operator arguments 1
  match Assignment.ofSymbol? symbol with
  | some assignment => return assignment
  | none => .error (.badArgument .set .operator symbol)

/-- The rest of the line from a position on, its words joined by single spaces. -/
def remainder (verb : Verb) (parameter : Parameter) (arguments : List String) (index : Nat) :
    Except CommandError String := do
  let _ ← required verb parameter arguments index
  return " ".intercalate (arguments.drop index)

/-- The command of a verb with these arguments. -/
def command (verb : Verb) (arguments : List String) : Except CommandError Command :=
  match verb with
  | .jump => return .jump (← required .jump .screen arguments 0)
  | .relay => return .relay (← required .relay .relay arguments 0)
  | .message => return .message (← remainder .message .text arguments 0)
  | .give => do
    let item ← required .give .item arguments 0
    return .give item (← amountOrOne .give arguments 1)
  | .consume => do
    let item ← required .consume .item arguments 0
    return .consume item (← amountOrOne .consume arguments 1)
  | .unlock => return .unlock (← required .unlock .recipe arguments 0)
  | .lock => return .lock (← required .lock .recipe arguments 0)
  | .set => do
    let name ← required .set .variable arguments 0
    let assignment ← assignment arguments
    return .set name assignment (← remainder .set .expression arguments 2)
  | .exit => .ok .exit
  | .next => return .next (← amountOrOne .next arguments 0)

/-- The command that a phrase asks for. -/
def toCommand (phrase : Phrase) : Except CommandError Command :=
  match Verb.ofKeyword? phrase.verb with
  | some verb => command verb phrase.arguments
  | none => .error (.unknownVerb phrase.verb)

end Phrase

def Command.parse (source : String) : Except CommandError Command :=
  match Phrase.read? source with
  | some phrase => phrase.toCommand
  | none => .error .empty

end Narrative
