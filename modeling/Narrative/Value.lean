import Narrative.Decimal.Positional

/-!
# Value — what variables hold and expressions yield
-/

namespace Narrative

/-- A runtime value. A variable that was never set reads as `null`. -/
inductive Value where
  | null
  | bool (b : Bool)
  | number (x : Float)
  | text (s : String)
deriving Inhabited

/-- The types of values. -/
inductive ValueType where
  | null
  | boolean
  | number
  | text
deriving DecidableEq, Repr

/-- The name of a type in messages. -/
def ValueType.name : ValueType → String
  | .null => "null"
  | .boolean => "boolean"
  | .number => "number"
  | .text => "text"

namespace Value

def type : Value → ValueType
  | .null => .null
  | .bool _ => .boolean
  | .number _ => .number
  | .text _ => .text

/-- Whether a value counts as true: not `null`, not `false`, not zero, no NaN, no empty text. -/
def truthy : Value → Bool
  | .null => false
  | .bool b => b
  | .number x => !(x == 0) && !x.isNaN
  | .text s => !s.isEmpty

/-- The text of a value where it is shown or joined to a text. -/
def display : Value → String
  | .null => "null"
  | .bool b => if b then "true" else "false"
  | .number x => Decimal.text x
  | .text s => s

/-- Equality without coercion: values of different types differ, and NaN differs from itself. -/
def equals : Value → Value → Bool
  | .null, .null => true
  | .bool a, .bool b => a == b
  | .number a, .number b => a == b
  | .text a, .text b => a == b
  | _, _ => false

/-- The order of two numbers or of two texts by code point. Other pairs have none, and neither
has NaN with any number. -/
def compare? : Value → Value → Option Ordering
  | .number a, .number b =>
    if a < b then some .lt else if a == b then some .eq else if b < a then some .gt else none
  | .text a, .text b => some (compare a b)
  | _, _ => none

end Value

end Narrative
