import Narrative.Document.Datum
import Narrative.Decimal.Positional
import Narrative.Text.Numeral
import Narrative.Text.Scanner

/-!
# Document.Json — the JSON syntax

A strict reader: no comments, no trailing commas, no raw control characters. What is well written
but no value is read as `Datum.invalid`: a number beyond the doubles, half a surrogate pair, and
what is nested more than 127 levels deep.
-/

namespace Narrative.Json

open Text

/-- Skips the white space between tokens. -/
def skipSpace : Scanner Unit :=
  Scanner.skipWhile fun c => c == ' ' || c == '\t' || c == '\n' || c == '\r'

/-! ## Texts -/

/-- A part of a quoted text: a character, or a 16-bit unit that was written by its number. -/
inductive Unit16 where
  | char (c : Char)
  | unit (n : Nat)

/-- The units up to the closing quote. The list that is left bounds their number. -/
def units : Nat → Scanner (List Unit16)
  | 0 => Scanner.refuse
  | fuel + 1 => do
    let c ← Scanner.next
    if c == '"' then return []
    else if c == '\\' then
      let escaped ← Scanner.next
      let unit ← match escaped with
        | '"' | '\\' | '/' => pure (Unit16.char escaped)
        | 'b' => pure (.char '\x08')
        | 'f' => pure (.char '\x0c')
        | 'n' => pure (.char '\n')
        | 'r' => pure (.char '\r')
        | 't' => pure (.char '\t')
        | 'u' => Unit16.unit <$> Scanner.hexDigits 4 0
        | _ => Scanner.refuse
      return unit :: (← units fuel)
    -- control characters have to be written as escapes
    else if c < ' ' then Scanner.refuse
    else return .char c :: (← units fuel)

/-- The characters of units, where two surrogates make one. Half a pair has none. -/
def assemble : List Unit16 → Option (List Char)
  | [] => some []
  | .char c :: rest => (assemble rest).map (c :: ·)
  | .unit high :: .unit low :: rest =>
    if 0xD800 ≤ high ∧ high < 0xDC00 ∧ 0xDC00 ≤ low ∧ low < 0xE000 then
      (assemble rest).map (Char.ofNat (0x10000 + (high - 0xD800) * 0x400 + (low - 0xDC00)) :: ·)
    else do
      let c ← charOf? high
      return c :: (← assemble (.unit low :: rest))
  | .unit n :: rest => do
    let c ← charOf? n
    return c :: (← assemble rest)

/-- The text behind an opening quote, or nothing if it has half a surrogate pair. -/
def quoted : Scanner (Option String) := do
  let units ← units ((← get).length + 1)
  return (assemble units).map String.ofList

/-! ## Numbers

A number is read as its leading digits, as many as fit 64 bits, times a power of ten. The product
is taken in doubles, so the result may be a neighbour of the nearest double. -/

/-- A significand of at most 64 bits and the power of ten it is to be multiplied by. -/
structure Scaled where
  significand : Nat
  exponent : Int
  /-- Whether some digit did not fit. -/
  full : Bool

/-- Reads on with the digits in front of the point. Those that do not fit count as zeros. -/
def Scaled.wholeDigit (s : Scaled) (c : Char) : Scaled :=
  let longer := 10 * s.significand + ofDigits [c]
  if s.full || longer ≥ UInt64.size then { s with exponent := s.exponent + 1, full := true }
  else { s with significand := longer }

/-- Reads on with the digits behind the point, up to the first that does not fit. -/
def Scaled.fraction (s : Scaled) : List Char → Scaled
  | [] => s
  | c :: cs =>
    let longer := 10 * s.significand + ofDigits [c]
    if longer ≥ UInt64.size then s
    else Scaled.fraction { s with significand := longer, exponent := s.exponent - 1 } cs

/-- The double `10 ^ n`. -/
def powerOfTen (n : Nat) : Float := Decimal.toFloat ⟨1, n⟩

/-- Multiplies by a power of ten, or nothing if the product is beyond the doubles. Powers that are
beyond the doubles themselves are taken in steps. -/
def scale (x : Float) (exponent : Int) : Option Float :=
  if exponent.natAbs ≤ 308 then
    if exponent < 0 then some (x / powerOfTen exponent.natAbs)
    else
      let product := x * powerOfTen exponent.natAbs
      if product.isInf then none else some product
  else if x == 0 then some x
  else if h : 0 ≤ exponent then none
  else scale (x / powerOfTen 308) (exponent + 308)
termination_by exponent.natAbs
decreasing_by omega

/-- The value of a scaled significand. -/
def Scaled.value (s : Scaled) (negative : Bool) : Datum :=
  match scale (Float.ofNat s.significand) s.exponent with
  | some x => .float (if negative then -x else x)
  | none => .invalid

/-- The value of a number without point and exponent: a whole number if it fits 64 bits. A minus
sign in front of zero is kept. -/
def wholeValue (s : Scaled) (negative : Bool) : Datum :=
  if s.full then s.value negative
  else if !negative then .int s.significand
  else if s.significand = 0 ∨ s.significand > Nat.pow 2 63 then
    .float (-(Float.ofNat s.significand))
  else .int (-s.significand)

/-- Takes one digit or more. -/
def digits : Scanner (List Char) := do
  let ds ← Scanner.takeWhile (·.isDigit)
  if ds.isEmpty then Scanner.refuse else return ds

/-- Reads the exponent behind its mark and applies it. Past 31 bits it decides by itself. -/
def exponent (s : Scaled) (negative : Bool) : Scanner Datum := do
  let below ← Scanner.accept "-"
  unless below do let _ ← Scanner.accept "+"
  let shift := ofDigits (← digits)
  if shift < Nat.pow 2 31 then
    let change : Int := if below then -shift else shift
    return { s with exponent := s.exponent + change }.value negative
  -- with an exponent beyond all bounds a number is infinite or zero
  else if s.significand ≠ 0 ∧ !below then return .invalid
  else return .float (if negative then -0.0 else 0.0)

/-- Reads a number. A leading zero stands alone. -/
def number : Scanner Datum := do
  let negative ← Scanner.accept "-"
  let whole ← digits
  -- no zeros in front
  if whole.length > 1 ∧ whole.head? = some '0' then Scanner.refuse
  let s := whole.foldl Scaled.wholeDigit ⟨0, 0, false⟩
  let isFraction ← Scanner.accept "."
  let s ← if isFraction then s.fraction <$> digits else pure s
  if (← get).head?.any (·.toLower == 'e') then do
    let _ ← Scanner.next
    exponent s negative
  else return if isFraction then s.value negative else wholeValue s negative

/-! ## Values -/

mutual

/-- Reads a value in room for this many levels of nesting. The fuel bounds the recursion; each
value takes at least one character. -/
def value : Nat → Nat → Scanner Datum
  | 0, _ => Scanner.refuse
  | fuel + 1, room => do
    skipSpace
    match ← Scanner.peek? with
    | some '"' => do
      Scanner.expect "\""
      return match ← quoted with
        | some s => .text s
        | none => .invalid
    | some '[' => do
      Scanner.expect "["
      skipSpace
      let items ← if ← Scanner.accept "]" then pure [] else items fuel (room - 1)
      -- what is nested too deep is read to its end, but is no value
      return if room = 0 then .invalid else .list items
    | some '\x7b' => do
      Scanner.expect "\x7b"
      skipSpace
      let entries ← if ← Scanner.accept "\x7d" then pure [] else entries fuel (room - 1)
      return match room, entries.mapM fun entry => entry.1.map (·, entry.2) with
        | 0, _ | _, none => .invalid
        | _, some entries => .object entries
    | some 't' => do
      Scanner.expect "true"
      return .bool true
    | some 'f' => do
      Scanner.expect "false"
      return .bool false
    | some 'n' => do
      Scanner.expect "null"
      return .null
    | _ => number

/-- Reads the items up to the closing bracket. -/
def items : Nat → Nat → Scanner (List Datum)
  | 0, _ => Scanner.refuse
  | fuel + 1, room => do
    let item ← value fuel room
    skipSpace
    if ← Scanner.accept "]" then return [item]
    Scanner.expect ","
    return item :: (← items fuel room)

/-- Reads the names and values up to the closing brace. -/
def entries : Nat → Nat → Scanner (List (Option String × Datum))
  | 0, _ => Scanner.refuse
  | fuel + 1, room => do
    skipSpace
    Scanner.expect "\""
    let name ← quoted
    skipSpace
    Scanner.expect ":"
    let datum ← value fuel room
    skipSpace
    if ← Scanner.accept "\x7d" then return [(name, datum)]
    Scanner.expect ","
    return (name, datum) :: (← entries fuel room)

end

def read? (text : String) : Option Datum :=
  Scanner.readAll (do
    let datum ← value (2 * text.length + 2) 127
    skipSpace
    return datum) text.toList

end Narrative.Json
