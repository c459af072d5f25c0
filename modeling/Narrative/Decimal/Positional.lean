import Narrative.Decimal.Shortest

/-!
# Decimal.Positional — numbers as text

Numbers are written with the fewest digits that identify them, always positionally and never
with an exponent; a point only stands where digits follow it, and zero has no sign.
-/

namespace Narrative

/-- The digits of a decimal at their places, with zeros up to the point where needed. -/
def Decimal.positional (d : Decimal) : String :=
  let digits := Nat.toDigits 10 d.digits
  let fraction := (-d.place).toNat
  if fraction = 0 then
    String.ofList (digits ++ List.replicate d.place.toNat '0')
  else
    -- zeros in front, so that at least one digit is left of the point
    let padded := List.replicate (fraction + 1 - digits.length) '0' ++ digits
    let whole := padded.length - fraction
    String.ofList (padded.take whole ++ '.' :: padded.drop whole)

/-- The number nearest to a decimal in some binary format. Beyond four hundred places nothing but
infinity or zero is left, so those are answered without forming the power of ten. -/
def Decimal.nearest {α : Type} [OfScientific α] (zero infinity : α) (d : Decimal) : α :=
  let top := (Nat.toDigits 10 d.digits).length + d.place
  if d.digits = 0 then zero
  else if top > 400 then infinity
  else if top < -400 then zero
  else if d.place < 0 then OfScientific.ofScientific d.digits true (-d.place).toNat
  else OfScientific.ofScientific d.digits false d.place.toNat

/-- The double nearest to a decimal. -/
def Decimal.toFloat (d : Decimal) : Float := d.nearest 0 (1 / 0)

/-- The number of single precision nearest to a decimal. -/
def Decimal.toFloat32 (d : Decimal) : Float32 := d.nearest 0 (1 / 0)

/-- The text of a number. -/
def Decimal.text (x : Float) : String :=
  if x.isNaN then "NaN"
  else
    let sign := if x < 0 then "-" else ""
    if x.isInf then sign ++ "inf"
    else if x == 0 then "0"
    else sign ++ (Decimal.shortest x.toBits).positional

end Narrative
