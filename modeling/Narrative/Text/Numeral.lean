/-!
# Text.Numeral — natural numbers in decimal digits

`read?` reads ASCII digits, with at most one plus sign in front; `readBelow?` refuses what is
too large for its bound.
-/

namespace Narrative.Text

/-- The value of a list of decimal digits. -/
def ofDigits (digits : List Char) : Nat :=
  digits.foldl (fun n c => 10 * n + (c.toNat - '0'.toNat)) 0

/-- Reads a natural number: one digit or more, a plus sign in front allowed. -/
def readNat? (cs : List Char) : Option Nat :=
  let digits := match cs with
    | '+' :: rest => rest
    | _ => cs
  if !digits.isEmpty && digits.all (·.isDigit) then some (ofDigits digits) else none

/-- Reads a natural number below a bound. -/
def readBelow? (bound : Nat) (cs : List Char) : Option Nat :=
  (readNat? cs).filter (· < bound)

end Narrative.Text
