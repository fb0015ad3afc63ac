/-!
Binary64 numbers as exact values. A finite number is a sign, a significand and
an exponent counted from the smallest positive number, so every magnitude is a
whole multiple of one unit, `2 ^ -1074`. The representation is canonical: two
finite numbers are the same number with the same sign exactly when they are
equal terms. Rounding is done on whole numbers and happens once per operation.
-/

namespace Narrative

/-- Powers are the core's own, so that a number means the same beside any algebra. -/
@[default_instance 10001]
instance (priority := 1100) corePow {α : Type} [NatPow α] : Pow α Nat := instPowNat

/-- The significands and exponents that stand for a finite magnitude
`significand * 2 ^ exponent` units. A significand below `2 ^ 52` is subnormal
and needs the exponent `0`; the largest exponent is the one of `2 ^ 1023`. -/
def CanonicalMagnitude (significand exponent : Nat) : Prop :=
  significand < 2 ^ 53 ∧ (exponent = 0 ∨ 2 ^ 52 ≤ significand) ∧ exponent ≤ 2045

instance (significand exponent : Nat) : Decidable (CanonicalMagnitude significand exponent) :=
  inferInstanceAs (Decidable (_ ∧ _ ∧ _))

/-- A binary64 number. There is one not-a-number: its payload is never shown. -/
inductive Binary64 where
  | nan
  | infinite (negative : Bool)
  | finite (negative : Bool) (significand exponent : Nat)
      (canonical : CanonicalMagnitude significand exponent)
deriving DecidableEq

/-- The integer nearest to `num / den`; a half goes to the even neighbour. -/
def roundHalfEven (num den : Nat) : Nat :=
  let quotient := num / den
  let twice := 2 * (num % den)
  if twice < den ∨ (twice = den ∧ quotient % 2 = 0) then quotient else quotient + 1

namespace Binary64

def zero (negative : Bool) : Binary64 :=
  .finite negative 0 0 (by decide)

instance : Inhabited Binary64 := ⟨zero false⟩

/-- A magnitude in units, or the infinity of its sign when it is too large. -/
def ofMagnitude (negative : Bool) (significand exponent : Nat) : Binary64 :=
  if canonical : CanonicalMagnitude significand exponent then
    .finite negative significand exponent canonical
  else
    .infinite negative

/-- The number of units in one: the smallest positive number is `1 / unitsPerOne`. -/
def unitsPerOne : Nat := 2 ^ 1074

/-- The number nearest to `num / den` with the given sign, a half going to the
even significand. The exponent is the one at which the quotient has 53 binary
digits; a significand that rounds up to 54 digits moves to the next exponent. -/
def nearest (negative : Bool) (num den : Nat) : Binary64 :=
  let units := num * unitsPerOne
  let exponent := (units / den).log2 - 52
  let significand := roundHalfEven units (den * 2 ^ exponent)
  if significand = 2 ^ 53 then
    ofMagnitude negative (2 ^ 52) (exponent + 1)
  else
    ofMagnitude negative significand exponent

def ofInt (n : Int) : Binary64 :=
  nearest (n < 0) n.natAbs 1

def isFinite : Binary64 → Bool
  | .finite .. => true
  | _ => false

/-- The magnitude of a finite number in units; the others count as zero. -/
def units : Binary64 → Nat
  | .finite _ significand exponent _ => significand * 2 ^ exponent
  | _ => 0

def negate : Binary64 → Binary64
  | .nan => .nan
  | .infinite negative => .infinite (!negative)
  | .finite negative significand exponent canonical =>
    .finite (!negative) significand exponent canonical

/-- Numeric equality: not-a-number equals nothing, and the two zeros are equal. -/
def equal : Binary64 → Binary64 → Bool
  | .nan, _ => false
  | _, .nan => false
  | .finite _ 0 _ _, .finite _ 0 _ _ => true
  | a, b => a = b

def toInt? : Binary64 → Option Int
  | .finite negative significand exponent _ =>
    let units := significand * 2 ^ exponent
    if units % unitsPerOne = 0 then
      let magnitude : Int := (units / unitsPerOne : Nat)
      some (if negative then -magnitude else magnitude)
    else
      none
  | _ => none

/-- The product of two finite magnitudes, rounded once, without a sign. -/
def magnitudeProduct (a b : Binary64) : Binary64 :=
  nearest false (a.units * b.units) (unitsPerOne * unitsPerOne)

/-- The quotient of two finite magnitudes, rounded once, without a sign. -/
def magnitudeQuotient (a b : Binary64) : Binary64 :=
  nearest false a.units b.units

/-- The 64 bits of the interchange format. Exponent field and fraction of a
finite number together are `exponent * 2 ^ 52 + significand`, subnormal or not. -/
def toBits : Binary64 → Nat
  | .nan => 0x7ff8000000000000
  | .infinite negative => signBit negative + 0x7ff0000000000000
  | .finite negative significand exponent _ =>
    signBit negative + (exponent * 2 ^ 52 + significand)
where
  signBit (negative : Bool) : Nat := if negative then 2 ^ 63 else 0

/-- The number that 64 bits of the interchange format stand for. -/
def ofBits (bits : Nat) : Binary64 :=
  let negative := bits / 2 ^ 63 % 2 == 1
  let field := bits / 2 ^ 52 % 2 ^ 11
  let fraction := bits % 2 ^ 52
  if field = 2047 then
    if fraction = 0 then .infinite negative else .nan
  else if field = 0 then
    ofMagnitude negative fraction 0
  else
    ofMagnitude negative (2 ^ 52 + fraction) (field - 1)

theorem ofMagnitude_of_canonical (negative : Bool) {significand exponent : Nat}
    (canonical : CanonicalMagnitude significand exponent) :
    ofMagnitude negative significand exponent =
      .finite negative significand exponent canonical := by
  simp [ofMagnitude, canonical]

private theorem signBit_false : toBits.signBit false = 0 := rfl

private theorem signBit_true : toBits.signBit true = 2 ^ 63 := rfl

/-- The bits of a number stand for that number. -/
theorem ofBits_toBits (x : Binary64) : ofBits x.toBits = x := by
  cases x with
  | nan => decide
  | infinite negative => cases negative <;> decide
  | finite negative significand exponent canonical =>
      obtain ⟨hsignificand, hnormal, hexponent⟩ := id canonical
      have hnegative :
          ((toBits.signBit negative + (exponent * 2 ^ 52 + significand)) / 2 ^ 63 % 2 == 1) =
            negative := by
        cases negative
        · rw [signBit_false, beq_eq_false_iff_ne]
          omega
        · rw [signBit_true, beq_iff_eq]
          omega
      by_cases hsmall : significand < 2 ^ 52
      · have hzero : exponent = 0 := by omega
        subst hzero
        have hfield :
            (toBits.signBit negative + (0 * 2 ^ 52 + significand)) / 2 ^ 52 % 2 ^ 11 = 0 := by
          cases negative <;> simp only [signBit_false, signBit_true] <;> omega
        have hfraction :
            (toBits.signBit negative + (0 * 2 ^ 52 + significand)) % 2 ^ 52 = significand := by
          cases negative <;> simp only [signBit_false, signBit_true] <;> omega
        unfold ofBits toBits
        simp only [hnegative, hfield, hfraction]
        exact ofMagnitude_of_canonical negative canonical
      · have hfield :
            (toBits.signBit negative + (exponent * 2 ^ 52 + significand)) / 2 ^ 52 % 2 ^ 11 =
              exponent + 1 := by
          cases negative <;> simp only [signBit_false, signBit_true] <;> omega
        have hfraction :
            2 ^ 52 + (toBits.signBit negative + (exponent * 2 ^ 52 + significand)) % 2 ^ 52 =
              significand := by
          cases negative <;> simp only [signBit_false, signBit_true] <;> omega
        have hfinite : exponent + 1 ≠ 2047 := by omega
        unfold ofBits toBits
        simp only [hnegative, hfield, hfraction, hfinite, if_false]
        exact ofMagnitude_of_canonical negative canonical

@[simp] theorem isFinite_zero (negative : Bool) : (zero negative).isFinite = true := rfl

theorem equal_nan (a : Binary64) : a.equal .nan = false := by
  cases a <;> rfl

end Binary64

end Narrative
