import Narrative.Number.Decimal
import Narrative.Json.Basic

/-!
Numbers in stored data. A whole number in the range of 64-bit words is exact.
Every other number is read as a significand that fits 64 bits, the digits beyond
it being dropped, and is then scaled by a power of ten: the significand, the
power and the scaled number are each rounded once.
-/

namespace Narrative.Json

structure Numeral where
  negative : Bool
  whole : List Char
  fraction : List Char
  exponent : Int
  /-- Whether there is neither a point nor a power of ten. -/
  isWhole : Bool

/-- Append digits to a significand as long as it stays below `2 ^ 64`, and return
the digits that no longer fit. -/
def absorb (significand : Nat) : List Char → Nat × List Char
  | [] => (significand, [])
  | c :: digits =>
    let longer := significand * 10 + (digitValue? c).getD 0
    if longer < 2 ^ 64 then absorb longer digits else (significand, c :: digits)

/-- The largest power of ten that is scaled by in one step. -/
def longestStep : Nat := 308

def powerOfTen (exponent : Nat) : Binary64 :=
  .nearest false (10 ^ exponent) 1

/-- Scale a magnitude by a power of ten. A negative power beyond the longest step
is taken in several steps; there is no number if the magnitude grows too large. -/
def scaled? (magnitude : Binary64) (exponent : Int) : Option Binary64 :=
  if exponent.natAbs ≤ longestStep then
    if 0 ≤ exponent then
      let product := magnitude.magnitudeProduct (powerOfTen exponent.natAbs)
      if product.isFinite then some product else none
    else
      some (magnitude.magnitudeQuotient (powerOfTen exponent.natAbs))
  else if magnitude.units = 0 then some magnitude
  else if 0 ≤ exponent then none
  else scaled? (magnitude.magnitudeQuotient (powerOfTen longestStep)) (exponent + longestStep)
termination_by exponent.natAbs
decreasing_by
  simp only [longestStep] at *
  omega

namespace Numeral

/-- The significand of the digits before and after the point, and the power of
ten that goes with it. A digit before the point that does not fit counts as a
factor of ten, and one after the point as nothing. -/
def significand (n : Numeral) : Nat × Int :=
  let (whole, left) := absorb 0 n.whole
  let (significand, dropped) := absorb whole n.fraction
  (significand, left.length - (n.fraction.length - dropped.length) + n.exponent)

def toReal (n : Numeral) : Json :=
  let (significand, exponent) := n.significand
  match scaled? (.ofInt significand) exponent with
  | some magnitude => .real (if n.negative then magnitude.negate else magnitude)
  | none => .unusable

/-- The value that is written. A whole number is exact when it fits a 64-bit
word, signed if there is a sign; a negative zero is not whole. -/
def toJson (n : Numeral) : Json :=
  let whole := wholeNumber 10 n.whole
  if !n.isWhole then n.toReal
  else if n.negative then
    if 0 < whole ∧ whole ≤ 2 ^ 63 then .int (-whole) else n.toReal
  else if whole < 2 ^ 64 then .int whole
  else n.toReal

end Numeral

end Narrative.Json
