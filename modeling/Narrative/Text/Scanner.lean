/-!
# Text.Scanner — reading text from the front

A `Scanner α` takes characters off the front of a text and yields an `α`, or refuses the text.
-/

namespace Narrative.Text

/-- Reads an `α` off the front of a text. -/
abbrev Scanner (α : Type) : Type := StateT (List Char) Option α

namespace Scanner

variable {α β : Type}

def refuse : Scanner α := fun _ => none

/-- The next character, if there is one. It stays in place. -/
def peek? : Scanner (Option Char) := fun cs => some (cs.head?, cs)

def next : Scanner Char
  | [] => none
  | c :: cs => some (c, cs)

/-- Takes the longest run of characters of a class. -/
def takeWhile (p : Char → Bool) : Scanner (List Char) := fun cs =>
  some (cs.takeWhile p, cs.dropWhile p)

/-- Skips characters of a class. -/
def skipWhile (p : Char → Bool) : Scanner Unit := fun cs => some ((), cs.dropWhile p)

/-- Takes this text if it is next, and tells whether it was. -/
def accept (expected : String) : Scanner Bool := fun cs =>
  let wanted := expected.toList
  if wanted.isPrefixOf cs then some (true, cs.drop wanted.length) else some (false, cs)

/-- Takes this text, which has to be next. -/
def expect (expected : String) : Scanner Unit := do
  unless ← accept expected do refuse

/-- Whether this text is next. It stays in place. -/
def isNext (expected : String) : Scanner Bool := fun cs =>
  some (expected.toList.isPrefixOf cs, cs)

/-- Whether the text is used up. -/
def atEnd : Scanner Bool := fun cs => some (cs.isEmpty, cs)

/-- Takes that many hexadecimal digits and yields their value. -/
def hexDigits : Nat → Nat → Scanner Nat
  | 0, value => pure value
  | count + 1, value => do
    let c ← next
    match hexDigit? c with
    | some digit => hexDigits count (16 * value + digit)
    | none => refuse
where
  /-- The value of a hexadecimal digit. -/
  hexDigit? (c : Char) : Option Nat :=
    if c.isDigit then some (c.toNat - '0'.toNat)
    else if 'a' ≤ c ∧ c ≤ 'f' then some (c.toNat - 'a'.toNat + 10)
    else if 'A' ≤ c ∧ c ≤ 'F' then some (c.toNat - 'A'.toNat + 10)
    else none

def readAll (scanner : Scanner α) (text : List Char) : Option α :=
  match scanner text with
  | some (value, []) => some value
  | _ => none

end Scanner

/-- The character with a code point, which has to be one. -/
def charOf? (code : Nat) : Option Char :=
  if code.isValidChar then some (Char.ofNat code) else none

end Narrative.Text
