import Narrative.Number.Binary64

/-!
Decimal numerals and the numbers they denote. A numeral is read into a sign, a
whole number of digits and a power of ten, and is rounded to binary64 only once,
from that exact value.
-/

namespace Narrative

def digitValue? (c : Char) : Option Nat :=
  if '0' ≤ c ∧ c ≤ '9' then some (c.toNat - '0'.toNat)
  else if 'a' ≤ c ∧ c ≤ 'f' then some (c.toNat - 'a'.toNat + 10)
  else if 'A' ≤ c ∧ c ≤ 'F' then some (c.toNat - 'A'.toNat + 10)
  else none

/-- Whether a character is one of the ten decimal digits of ASCII. -/
def isDecimalDigit (c : Char) : Bool :=
  '0' ≤ c && c ≤ '9'

def isHexDigit (c : Char) : Bool :=
  (digitValue? c).isSome

/-- The whole number that a row of digits writes in the given base. -/
def wholeNumber (base : Nat) (digits : List Char) : Nat :=
  digits.foldl (fun n c => n * base + (digitValue? c).getD 0) 0

/-- A decimal numeral: `digits * 10 ^ exponent` with a sign. -/
structure Decimal where
  negative : Bool
  digits : Nat
  exponent : Int
deriving DecidableEq

namespace Decimal

/-- The number nearest to the numeral. A power of ten far outside the range
settles the answer before it is computed: below `2 ^ (b + 1) * 10 ^ -(b + 400)`
everything rounds to zero, and from `10 ^ 400` on everything is infinite. -/
def toBinary64 (d : Decimal) : Binary64 :=
  if d.digits = 0 then .zero d.negative
  else if d.exponent < -(d.digits.log2 + 400 : Int) then .zero d.negative
  else if 400 < d.exponent then .infinite d.negative
  else if 0 ≤ d.exponent then .nearest d.negative (d.digits * 10 ^ d.exponent.toNat) 1
  else .nearest d.negative d.digits (10 ^ (-d.exponent).toNat)

def takeSign : List Char → Bool × List Char
  | '-' :: rest => (true, rest)
  | '+' :: rest => (false, rest)
  | text => (false, text)

/-- The power of ten at the end of a numeral: nothing at all, or `e` or `E`, an
optional sign and digits to the end of the text. -/
def exponent? : List Char → Option Int
  | [] => some 0
  | mark :: text =>
    let (negative, digits) := takeSign text
    if (mark = 'e' ∨ mark = 'E') ∧ digits ≠ [] ∧ digits.all isDecimalDigit then
      let magnitude : Int := wholeNumber 10 digits
      some (if negative then -magnitude else magnitude)
    else
      none

/-- Read a decimal numeral: an optional sign; digits with an optional point and
further digits, or a point and digits; an optional power of ten. All of the text
must belong to the numeral, and only ASCII digits count. -/
def ofChars? (text : List Char) : Option Decimal :=
  let (negative, unsigned) := takeSign text
  let whole := unsigned.takeWhile isDecimalDigit
  let afterWhole := unsigned.dropWhile isDecimalDigit
  let (fraction, tail) : List Char × List Char :=
    match afterWhole with
    | '.' :: rest => (rest.takeWhile isDecimalDigit, rest.dropWhile isDecimalDigit)
    | _ => ([], afterWhole)
  let digits := whole ++ fraction
  if digits = [] then none
  else (exponent? tail).map fun exponent =>
    { negative, digits := wholeNumber 10 digits, exponent := exponent - fraction.length }

end Decimal

end Narrative
