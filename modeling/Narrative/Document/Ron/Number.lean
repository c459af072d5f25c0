import Narrative.Decimal.Positional
import Narrative.Document.Datum
import Narrative.Document.Ron.Token
import Narrative.Text.Numeral

/-!
# Document.Ron.Number — the numbers of RON

Whole numbers stand in base two, eight, ten or sixteen, others in base ten. Both may end in the
name of a type, which bounds a whole number and rounds another one; only in base eight and sixteen
no type follows. A whole number without a type that is too large for 64 bits is rounded.
-/

namespace Narrative.Ron

open Text

/-- Whether the name of a type ends here. -/
def endsType : Scanner Bool := fun cs => some (!cs.head?.any continuesName, cs)

/-- Takes the first of some names of types that is next, and yields what it stands for. -/
def typeName? {α : Type} : List (String × α) → Scanner (Option α)
  | [] => pure none
  | (word, meaning) :: others => do
    let before ← get
    if (← Scanner.accept word) && (← endsType) then return some meaning
    else
      set before
      typeName? others

/-- Takes a sign, and tells whether it is a minus. -/
def sign : Scanner Bool := do
  if ← Scanner.accept "-" then return true
  let _ ← Scanner.accept "+"
  return false

/-! ## Whole numbers -/

/-- The characters of the digits of whole numbers. -/
def isWholeChar (c : Char) : Bool := (Scanner.hexDigits.hexDigit? c).isSome || c == '_'

/-- The number with these digits, underscores apart. -/
def ofBase? (base : Nat) (cs : List Char) : Option Nat := do
  let digits ← (cs.filter (· != '_')).mapM fun c =>
    (Scanner.hexDigits.hexDigit? c).filter (· < base)
  return digits.foldl (fun n digit => base * n + digit) 0

/-- The types of whole numbers with their bounds. -/
def wholeTypes : List (String × Int × Int) :=
  [8, 16, 32, 64].flatMap fun bits =>
    [("i" ++ toString bits, -(Nat.pow 2 (bits - 1)), Nat.pow 2 (bits - 1)),
     ("u" ++ toString bits, 0, Nat.pow 2 bits)]

/-- The bounds of a whole number without a type. -/
def wholeBounds : Int × Int := (Int64.minValue.toInt, UInt64.size)

/-- Takes the mark of a base. -/
def base : Scanner Nat := do
  if ← Scanner.accept "0x" then return 16
  else if ← Scanner.accept "0o" then return 8
  else if ← Scanner.accept "0b" then return 2
  else return 10

def whole : Scanner Datum := do
  let negative ← sign
  let base ← base
  let taken ← Scanner.takeWhile isWholeChar
  if taken.isEmpty || taken.head? == some '_' then Scanner.refuse
  -- in the other bases the letters of a type would be taken for digits
  let type? ← if base == 2 || base == 10 then typeName? wholeTypes else pure none
  let bounds := type?.getD wholeBounds
  match ofBase? base taken with
  | none => Scanner.refuse
  | some size =>
    let n : Int := if negative then -size else size
    if bounds.1 ≤ n && n < bounds.2 then return .int n else Scanner.refuse

/-! ## Other numbers -/

/-- The characters of numbers with a point or an exponent. -/
def isRealChar (c : Char) : Bool := c.isDigit || c ∈ ['e', 'E', '.', '+', '-', '_']

/-- Removes underscores. None may stand at the start or behind a point. -/
def ungroup (allowed : Bool) : List Char → Option (List Char)
  | [] => some []
  | '_' :: cs => if allowed then ungroup allowed cs else none
  | c :: cs =>
    let allowed := c.isDigit || c.toLower == 'e' || c != '.' && allowed
    (ungroup allowed cs).map (c :: ·)

/-- The exponent behind its mark. -/
def shift? (cs : List Char) : Option Int :=
  let (below, digits) := match cs with
    | '-' :: digits => (true, digits)
    | '+' :: digits => (false, digits)
    | digits => (false, digits)
  if !digits.isEmpty && digits.all (·.isDigit) then
    some (if below then -(ofDigits digits) else ofDigits digits)
  else none

/-- A decimal number without a sign. It has a digit in front of its point or behind it. -/
def decimal? (cs : List Char) : Option Decimal := do
  let isMark (c : Char) : Bool := c.toLower == 'e'
  let mantissa := cs.takeWhile (!isMark ·)
  let whole := mantissa.takeWhile (· != '.')
  let fraction := (mantissa.dropWhile (· != '.')).drop 1
  let shift ← match cs.dropWhile (!isMark ·) with
    | [] => some 0
    | _ :: shift => shift? shift
  if !(whole ++ fraction).isEmpty && (whole ++ fraction).all (·.isDigit) then
    -- the digits as a whole number, with the point moved back by the fraction
    return ⟨ofDigits (whole ++ fraction), shift - fraction.length⟩
  else none

/-- The types of other numbers, with how they round. -/
def realTypes : List (String × (Decimal → Float)) :=
  [("f32", fun d => d.toFloat32.toFloat), ("f64", Decimal.toFloat)]

/-- The numbers that have a name. -/
def namedNumber? (word : String) : Option Float :=
  if word ∈ ["inf", "inff32", "inff64"] then some (1 / 0)
  else if word ∈ ["NaN", "NaNf32", "NaNf64"] then some (0 / 0)
  else none

/-- Reads the size of a number that need not be whole. -/
def realSize : Scanner Float := do
  if (← get).head?.any startsName then
    match namedNumber? (String.ofList (← Scanner.takeWhile continuesName)) with
    | some x => return x
    | none => Scanner.refuse
  else
    let taken ← Scanner.takeWhile isRealChar
    let round := (← typeName? realTypes).getD Decimal.toFloat
    match (ungroup false taken).bind decimal? with
    | some d => return round d
    | none => Scanner.refuse

/-- Reads a number that need not be whole. -/
def real : Scanner Datum := do
  let negative ← sign
  let size ← realSize
  return .float (if negative then -size else size)

/-! ## Numbers -/

/-- Whether a number goes on behind the digits of a whole one. -/
def isReal (cs : List Char) : Bool :=
  let size := match cs with
    | '+' :: size | '-' :: size => size
    | size => size
  (size.takeWhile isWholeChar).length < (size.takeWhile isRealChar).length

/-- The characters that a number starts with. -/
def startsNumber (c : Char) : Bool := c.isDigit || c ∈ ['+', '-', '.']

/-- Reads a number. What is no whole number may still be another one. -/
def number : Scanner Datum := fun cs =>
  if isReal cs then real cs else whole cs <|> real cs

end Narrative.Ron
