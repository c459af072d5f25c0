import Narrative.Text.Blank
import Narrative.Text.Numeral

/-!
# Console.Input — what a player types
-/

namespace Narrative.Console

/-- What a line of a player asks for. -/
inductive Input where
  /-- To select the choice with a number, counted from one. -/
  | choose (number : Nat)
  | inventory
  | recipes
  /-- To craft the recipe with a number, counted from one. -/
  | craft (number : Nat)
  | help
  | quit
  | unknown
deriving DecidableEq, Repr

namespace Input

/-- A number, if the word is one that a machine word holds. -/
def number? (word : String) : Option Nat := Text.readBelow? UInt64.size word.toList

/-- What the words of a line ask for. -/
def ofWords : List String → Input
  | [word] =>
    if word ∈ ["inventory", "inv", "i"] then .inventory
    else if word ∈ ["recipes", "r"] then .recipes
    else if word ∈ ["help", "?"] then .help
    else if word ∈ ["quit", "exit", "q"] then .quit
    -- a number alone is that of a choice
    else ((number? word).map .choose).getD .unknown
  | [word, number] =>
    if word ∈ ["craft", "c"] then ((number? number).map .craft).getD .unknown else .unknown
  | _ => .unknown

def parse (line : String) : Input := ofWords ((Text.words line.toList).map String.ofList)

end Input

end Narrative.Console
