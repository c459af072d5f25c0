import Narrative.Text.Numeral
import Narrative.Text.Scanner

/-!
# Document.Moment — dates and times of day

The written forms of RFC 3339: a date, a time of day, or both with an optional offset. They are
checked and spelled in one way; no story uses what they mean.
-/

namespace Narrative.Moment

open Text

/-- Takes that many digits. -/
def digits : Nat → Scanner (List Char)
  | 0 => pure []
  | count + 1 => do
    let c ← Scanner.next
    if c.isDigit then return c :: (← digits count) else Scanner.refuse

/-- Takes two digits whose value lies between the bounds. -/
def pair (low high : Nat) : Scanner (List Char) := do
  let taken ← digits 2
  if low ≤ ofDigits taken && ofDigits taken ≤ high then return taken else Scanner.refuse

/-- Whether a year has a leap day. -/
def isLeap (year : Nat) : Bool := year % 4 == 0 && (year % 100 != 0 || year % 400 == 0)

/-- The number of days of a month. -/
def daysIn (year month : Nat) : Nat :=
  if month = 2 then if isLeap year then 29 else 28
  else if month ∈ [4, 6, 9, 11] then 30
  else 31

def date : Scanner (List Char) := do
  let year ← digits 4
  Scanner.expect "-"
  let month ← pair 1 12
  Scanner.expect "-"
  let day ← pair 1 (daysIn (ofDigits year) (ofDigits month))
  return year ++ '-' :: month ++ '-' :: day

/-- The text of a fraction of a second: nine digits at most, and no zeros at the end. -/
def fractionText (taken : List Char) : List Char :=
  match ((taken.take 9).reverse.dropWhile (· == '0')).reverse with
  | [] => []
  | kept => '.' :: kept

/-- Takes the fraction of a second, if one is next. -/
def fraction : Scanner (List Char) := do
  if ← Scanner.accept "." then
    let taken ← Scanner.takeWhile (·.isDigit)
    if taken.isEmpty then Scanner.refuse else return fractionText taken
  else return []

/-- Takes a time of day. The last minute may have a leap second. -/
def timeOfDay : Scanner (List Char) := do
  let hour ← pair 0 23
  Scanner.expect ":"
  let minute ← pair 0 59
  Scanner.expect ":"
  let second ← pair 0 60
  return hour ++ ':' :: minute ++ ':' :: second ++ (← fraction)

/-- Takes the offset from universal time, if one is next. An offset of nothing has a plus sign. -/
def offset : Scanner (List Char) := do
  match ← Scanner.peek? with
  | some c =>
    if c.toLower == 'z' then do
      discard Scanner.next
      return ['Z']
    else if c == '+' || c == '-' then do
      discard Scanner.next
      let hours ← pair 0 23
      Scanner.expect ":"
      let minutes ← pair 0 59
      -- no offset at all is written with a plus sign
      let sign := if ofDigits (hours ++ minutes) = 0 then '+' else c
      return sign :: hours ++ ':' :: minutes
    else return []
  | none => return []

/-- Whether a time of day follows a date: behind a `T`, or behind a space and with a digit. -/
def continues : List Char → Bool
  | ' ' :: c :: _ => c.isDigit
  | c :: _ => c.toLower == 't'
  | [] => false

/-- Whether characters start a date or a time of day. -/
def isNext : List Char → Bool
  | a :: b :: ':' :: _ => a.isDigit && b.isDigit
  | a :: b :: c :: d :: '-' :: _ => [a, b, c, d].all (·.isDigit)
  | _ => false

/-- Takes a date, a time of day, or both, and yields its text in one spelling: a `T` in front of the
time and a `Z` for universal time. -/
def moment : Scanner String := do
  -- a time of day has its colon behind the hours, a date has four digits first
  if (← get)[2]? == some ':' then return String.ofList (← timeOfDay)
  else
    let day ← date
    if continues (← get) then do
      discard Scanner.next
      let time ← timeOfDay
      return String.ofList (day ++ 'T' :: time ++ (← offset))
    else return String.ofList day

end Narrative.Moment
