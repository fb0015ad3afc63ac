import Narrative.Number.Binary64

/-!
The shortest decimal text of a number. Of all decimals that read back as the
number, the ones on the coarsest grid of powers of ten have the fewest digits;
the nearer of the number's two neighbours on that grid is chosen.
-/

namespace Narrative

namespace Shortest

/-- A number of quarter units: the ends of the interval that rounds to a number
lie half a spacing away, which is a quarter unit when the spacing below is halved. -/
structure Interval where
  low : Nat
  value : Nat
  high : Nat
  closed : Bool

/-- The decimals that read back as the positive magnitude `significand * 2 ^ exponent`.
Both ends belong to it when the significand is even; below a power of two the
spacing, and with it the lower half, is half as wide. -/
def Interval.ofMagnitude (significand exponent : Nat) : Interval where
  low := (4 * significand - (if significand = 2 ^ 52 ∧ 0 < exponent then 1 else 2)) * 2 ^ exponent
  value := 4 * significand * 2 ^ exponent
  high := (4 * significand + 2) * 2 ^ exponent
  closed := significand % 2 = 0

/-- Whether `num / den` quarter units lies in the interval. -/
def Interval.holds (i : Interval) (num den : Nat) : Bool :=
  if i.closed then i.low * den ≤ num && num ≤ i.high * den
  else i.low * den < num && num < i.high * den

structure Digits where
  digits : Nat
  exponent : Int
deriving DecidableEq

/-- The neighbour of the interval's value on the grid of multiples of
`10 ^ exponent` that reads back, the nearer one if both do and the upper one at
equal distance. -/
def onGrid? (i : Interval) (exponent : Int) : Option Digits :=
  let perOne := 4 * Binary64.unitsPerOne
  let num := perOne * 10 ^ exponent.toNat
  let den := 10 ^ (-exponent).toNat
  let lower := i.value * den / num
  let upper := lower + 1
  let lowerHolds := i.holds (lower * num) den
  let upperHolds := i.holds (upper * num) den
  let lowerIsNearer := 2 * (i.value * den) < (lower + upper) * num
  if lowerHolds && (lowerIsNearer || !upperHolds) then some ⟨lower, exponent⟩
  else if upperHolds then some ⟨upper, exponent⟩
  else none

/-- The powers of ten from that of the largest number down to one at which every
number is a multiple of the grid. -/
def grids : List Int :=
  (List.range 1400).map fun (step : Nat) => 310 - (step : Int)

def ofMagnitude (significand exponent : Nat) : Digits :=
  (grids.findSome? (onGrid? (.ofMagnitude significand exponent))).getD ⟨0, 0⟩

/-- A decimal in positional notation, without a power of ten. -/
def Digits.text (d : Digits) : String :=
  let shown := toString d.digits
  if 0 ≤ d.exponent then
    shown ++ String.ofList (List.replicate d.exponent.toNat '0')
  else
    let places := (-d.exponent).toNat
    if places < shown.length then
      let digits := shown.toList
      String.ofList (digits.take (digits.length - places)) ++ "." ++
        String.ofList (digits.drop (digits.length - places))
    else
      "0." ++ String.ofList (List.replicate (places - shown.length) '0') ++ shown

end Shortest

/-- The shortest positional text that reads back as the number. -/
def Binary64.shortestText : Binary64 → String
  | .nan => "NaN"
  | .infinite negative => if negative then "-inf" else "inf"
  | .finite negative significand exponent _ =>
    let magnitude :=
      if significand = 0 then "0" else (Shortest.ofMagnitude significand exponent).text
    if negative then "-" ++ magnitude else magnitude

end Narrative
