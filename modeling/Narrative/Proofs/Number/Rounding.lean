import Mathlib.Algebra.Ring.Int.Defs
import Narrative.Number.Binary64

/-!
Rounding to the nearest number. Distances are counted in units, so they are whole numbers, and
rounding a quotient at an exponent is rounding it to a multiple of a power of two. Main statement:
no finite number is nearer to a fraction than the one that it is rounded to.
-/

namespace Narrative

section HalfEven

variable {den : Nat}

/-- Rounding goes to one of the two neighbours: to the nearer, or at a half to the even one. -/
theorem roundHalfEven_cases (num den : Nat) :
    (roundHalfEven num den = num / den ∧
        (2 * (num % den) < den ∨ 2 * (num % den) = den ∧ num / den % 2 = 0)) ∨
      (roundHalfEven num den = num / den + 1 ∧
        (den < 2 * (num % den) ∨ 2 * (num % den) = den ∧ (num / den + 1) % 2 = 0)) := by
  unfold roundHalfEven
  dsimp only
  split
  · rename_i hdown
    exact .inl ⟨rfl, hdown⟩
  · rename_i hup
    exact .inr ⟨rfl, by omega⟩

/-- Where the multiples of a whole number lie, seen from two that follow one another. -/
theorem mul_neighbours (k quotient : Int) (den : Nat) :
    (k < quotient ∧ k * den + den ≤ quotient * den) ∨
      (k = quotient ∧ k * den = quotient * den) ∨
      (k = quotient + 1 ∧ k * den = quotient * den + den) ∨
      (quotient + 1 < k ∧ quotient * den + den + den ≤ k * den) := by
  have hscale {a b : Int} (h : a + 1 ≤ b) : a * den + den ≤ b * den := by
    rw [← add_one_mul]
    exact Int.mul_le_mul_of_nonneg_right h (Int.natCast_nonneg den)
  rcases Int.lt_trichotomy k quotient with hlt | rfl | hgt
  · exact .inl ⟨hlt, hscale hlt⟩
  · exact .inr (.inl ⟨rfl, rfl⟩)
  · rcases Int.lt_or_eq_of_le (Int.add_one_le_of_lt hgt) with hlt | rfl
    · have hfar := hscale (Int.add_one_le_of_lt hlt)
      rw [add_one_mul] at hfar
      exact .inr (.inr (.inr ⟨hlt, hfar⟩))
    · exact .inr (.inr (.inl ⟨rfl, add_one_mul _ _⟩))

/-- No whole number is nearer to a fraction than the one it is rounded to, and another can only be
as near if that one is even. -/
theorem roundHalfEven_nearest (num : Nat) (hden : 0 < den) (k : Int) :
    (roundHalfEven num den * den - num : Int).natAbs < (k * den - num).natAbs ∨
      (roundHalfEven num den * den - num : Int).natAbs = (k * den - num).natAbs ∧
        (k = roundHalfEven num den ∨ roundHalfEven num den % 2 = 0) := by
  have hnum : (num : Int) = (num / den : Nat) * den + (num % den : Nat) := by
    exact_mod_cast (Nat.div_add_mod' num den).symm
  have hlt : num % den < den := Nat.mod_lt num hden
  rcases roundHalfEven_cases num den with ⟨hround, hhalf⟩ | ⟨hround, hhalf⟩
  · rw [hround]
    rcases mul_neighbours k (num / den : Nat) den with hk | hk | hk | hk <;> omega
  · rw [hround, Int.natCast_succ, add_one_mul]
    rcases mul_neighbours k (num / den : Nat) den with hk | hk | hk | hk <;> omega

end HalfEven

namespace Binary64

/-- A finite number in units, with its sign. -/
def signedUnits : Binary64 → Int
  | .finite true significand exponent _ => -(significand * 2 ^ exponent : Nat)
  | x => x.units

/-- How far a finite number is from a fraction, in units and by the denominator. -/
def distance (x : Binary64) (num den : Nat) : Nat :=
  (x.signedUnits * den - (num * unitsPerOne : Nat)).natAbs

/-- Whether a number is what a fraction is rounded to: it is finite and without a minus sign, no
finite number is nearer, and another is only as near if the significand is even. -/
def IsNearest (x : Binary64) (num den : Nat) : Prop :=
  ∃ significand exponent canonical, x = .finite false significand exponent canonical ∧
    ∀ y : Binary64, y.isFinite = true → x.distance num den < y.distance num den ∨
      x.distance num den = y.distance num den ∧
        (y.signedUnits = x.signedUnits ∨ significand % 2 = 0)

/-- The exponent at which the whole part of a quotient has 53 binary digits, or the least one. -/
def exponentOf (quotient : Nat) : Nat :=
  quotient.log2 - 52

/-- The significand that a quotient in units is rounded to at its exponent. -/
def significandOf (units den : Nat) : Nat :=
  roundHalfEven units (den * 2 ^ exponentOf (units / den))

section Exponent

variable {quotient : Nat}

theorem lt_of_exponentOf (quotient : Nat) : quotient < 2 ^ 53 * 2 ^ exponentOf quotient := by
  rw [← Nat.pow_add]
  calc
    quotient < 2 ^ (quotient.log2 + 1) := Nat.lt_log2_self
    _ ≤ 2 ^ (53 + exponentOf quotient) := Nat.pow_le_pow_right (by decide) (by grind [exponentOf])

theorem le_of_exponentOf (quotient : Nat) (h : exponentOf quotient ≠ 0) :
    2 ^ 52 * 2 ^ exponentOf quotient ≤ quotient := by
  have hlog : 52 + exponentOf quotient = quotient.log2 := by grind [exponentOf]
  have hne : quotient ≠ 0 := by
    rintro rfl
    exact h (by decide)
  rw [← Nat.pow_add, hlog]
  exact Nat.log2_self_le hne

theorem exponentOf_le {bound : Nat} (h : quotient < 2 ^ (bound + 53)) :
    exponentOf quotient ≤ bound := by
  by_cases hzero : quotient = 0
  · subst hzero
    exact Nat.zero_le bound
  · have hlog := (Nat.log2_lt hzero).mpr h
    grind [exponentOf]

end Exponent

section Nearest

variable {num den range : Nat}

/-- A significand has 53 binary digits, or fewer at the least exponent, or it is rounded up to the
next power of two. -/
theorem significandOf_bounds (units den : Nat) :
    significandOf units den ≤ 2 ^ 53 ∧
      (exponentOf (units / den) = 0 ∨ 2 ^ 52 ≤ significandOf units den) := by
  unfold significandOf
  have hpow : 0 < 2 ^ exponentOf (units / den) := Nat.two_pow_pos _
  have hquotient : units / (den * 2 ^ exponentOf (units / den)) =
      units / den / 2 ^ exponentOf (units / den) := (Nat.div_div_eq_div_mul ..).symm
  have hhigh : units / (den * 2 ^ exponentOf (units / den)) < 2 ^ 53 := by
    rw [hquotient, Nat.div_lt_iff_lt_mul hpow]
    exact lt_of_exponentOf (units / den)
  have hlow : exponentOf (units / den) ≠ 0 →
      2 ^ 52 ≤ units / (den * 2 ^ exponentOf (units / den)) := by
    intro hexponent
    rw [hquotient, Nat.le_div_iff_mul_le hpow]
    exact le_of_exponentOf _ hexponent
  rcases roundHalfEven_cases units (den * 2 ^ exponentOf (units / den)) with
    ⟨hround, -⟩ | ⟨hround, -⟩
  · rw [hround]
    omega
  · rw [hround]
    omega

/-- No other multiple of the same power of two is nearer. -/
theorem significandOf_nearest (units : Nat) (hden : 0 < den) (k : Int) :
    (significandOf units den * (den * 2 ^ exponentOf (units / den) : Nat) - units : Int).natAbs <
        (k * (den * 2 ^ exponentOf (units / den) : Nat) - units).natAbs ∨
      (significandOf units den * (den * 2 ^ exponentOf (units / den) : Nat) - units : Int).natAbs =
          (k * (den * 2 ^ exponentOf (units / den) : Nat) - units).natAbs ∧
        (k = significandOf units den ∨ significandOf units den % 2 = 0) :=
  roundHalfEven_nearest units (Nat.mul_pos hden (Nat.two_pow_pos _)) k

/-- The exponents are variables here, so that no power is evaluated. -/
theorem mul_two_pow_lt {place : Nat} (hrange : range ≤ 1023) (hplace : place = 1074)
    (hlt : num < 2 ^ range * den) : num * 2 ^ place / den < 2 ^ (2044 + 53) := by
  obtain ⟨more, hmore⟩ := Nat.exists_eq_add_of_le (by omega : range + place ≤ 2044 + 53)
  rw [hmore]
  apply Nat.div_lt_of_lt_mul
  calc
    num * 2 ^ place < 2 ^ range * den * 2 ^ place :=
      Nat.mul_lt_mul_of_pos_right hlt (Nat.two_pow_pos place)
    _ = den * 2 ^ (range + place) := by
      rw [Nat.pow_add, Nat.mul_comm _ den, Nat.mul_assoc]
    _ ≤ den * 2 ^ (range + place + more) :=
      Nat.mul_le_mul_left den (Nat.pow_le_pow_right (by decide) (Nat.le_add_right _ more))

/-- A fraction within the range is rounded to a multiple of the power of two at which it has 53
binary digits. -/
theorem exists_nearest_eq_finite (negative : Bool) (hrange : range ≤ 1023)
    (hlt : num < 2 ^ range * den) :
    ∃ significand exponent canonical,
      nearest negative num den = .finite negative significand exponent canonical ∧
        significand * 2 ^ exponent =
          significandOf (num * unitsPerOne) den * 2 ^ exponentOf (num * unitsPerOne / den) ∧
        (significandOf (num * unitsPerOne) den % 2 = 0 → significand % 2 = 0) := by
  obtain ⟨hle, hnormal⟩ := significandOf_bounds (num * unitsPerOne) den
  have hexponent : exponentOf (num * unitsPerOne / den) ≤ 2044 :=
    exponentOf_le (mul_two_pow_lt hrange rfl hlt)
  have hnearest : nearest negative num den =
      if significandOf (num * unitsPerOne) den = 2 ^ 53 then
        ofMagnitude negative (2 ^ 52) (exponentOf (num * unitsPerOne / den) + 1)
      else
        ofMagnitude negative (significandOf (num * unitsPerOne) den)
          (exponentOf (num * unitsPerOne / den)) := rfl
  generalize exponentOf (num * unitsPerOne / den) = exponent at *
  generalize significandOf (num * unitsPerOne) den = significand at *
  by_cases hcarry : significand = 2 ^ 53
  · have hcanonical : CanonicalMagnitude (2 ^ 52) (exponent + 1) := by
      refine ⟨by decide, .inr (Nat.le_refl _), by omega⟩
    refine ⟨2 ^ 52, exponent + 1, hcanonical, ?_, ?_, fun _ => by decide⟩
    · rw [hnearest, if_pos hcarry, ofMagnitude_of_canonical]
    · rw [hcarry, Nat.pow_succ']
      omega
  · have hcanonical : CanonicalMagnitude significand exponent :=
      ⟨by omega, hnormal, by omega⟩
    refine ⟨significand, exponent, hcanonical, ?_, rfl, id⟩
    rw [hnearest, if_neg hcarry, ofMagnitude_of_canonical]

/-- A finite number that is no multiple of a power of two is small beside it. -/
theorem signedUnits_cases {y : Binary64} (hy : y.isFinite = true) (exponent : Nat) :
    (∃ k : Int, y.signedUnits = k * (2 ^ exponent : Nat)) ∨
      (exponent ≠ 0 ∧ y.signedUnits < (2 ^ 52 * 2 ^ exponent : Nat)) := by
  cases y with
  | nan => cases hy
  | infinite negative => cases hy
  | finite negative significand own canonical =>
      by_cases hle : exponent ≤ own
      · have hunits :
            significand * 2 ^ own = significand * 2 ^ (own - exponent) * 2 ^ exponent := by
          rw [Nat.mul_assoc, ← Nat.pow_add, Nat.sub_add_cancel hle]
        cases negative with
        | false =>
            exact .inl ⟨(significand * 2 ^ (own - exponent) : Nat),
              by simp [signedUnits, units, hunits]⟩
        | true =>
            exact .inl ⟨-(significand * 2 ^ (own - exponent) : Nat),
              by simp [signedUnits, hunits]⟩
      · have hsmall : significand * 2 ^ own < 2 ^ 52 * 2 ^ exponent := by
          calc
            significand * 2 ^ own < 2 ^ 53 * 2 ^ own :=
              Nat.mul_lt_mul_of_pos_right canonical.1 (Nat.two_pow_pos own)
            _ = 2 ^ 52 * 2 ^ (own + 1) := by rw [Nat.pow_succ' (n := own)]; omega
            _ ≤ 2 ^ 52 * 2 ^ exponent :=
              Nat.mul_le_mul_left _ (Nat.pow_le_pow_right (by decide) (by omega))
        refine .inr ⟨by omega, ?_⟩
        cases negative with
        | false => exact Int.ofNat_lt.mpr hsmall
        | true =>
            simp only [signedUnits]
            omega

/-- A fraction within the range is rounded to the number that is nearest to it. -/
theorem isNearest_nearest (hrange : range ≤ 1023) (hlt : num < 2 ^ range * den) :
    (nearest false num den).IsNearest num den := by
  have hden : 0 < den := Nat.pos_of_mul_pos_left (Nat.lt_of_le_of_lt (Nat.zero_le num) hlt)
  obtain ⟨significand, exponent, canonical, hx, hunits, heven⟩ :=
    exists_nearest_eq_finite false hrange hlt
  have hlow := le_of_exponentOf (num * unitsPerOne / den)
  have hrounded := significandOf_nearest (num * unitsPerOne) hden
  have hsigned : (nearest false num den).signedUnits = (significand * 2 ^ exponent : Nat) := by
    rw [hx]
    rfl
  rw [hunits, Int.natCast_mul] at hsigned
  refine ⟨significand, exponent, canonical, hx, ?_⟩
  intro y hy
  have hy := signedUnits_cases hy (exponentOf (num * unitsPerOne / den))
  unfold distance
  rw [hsigned]
  generalize exponentOf (num * unitsPerOne / den) = place at *
  generalize significandOf (num * unitsPerOne) den = rounded at *
  generalize num * unitsPerOne = units at *
  have hscale (k : Int) : k * (2 ^ place : Nat) * den = k * (den * 2 ^ place : Nat) := by
    rw [Int.natCast_mul, Int.mul_comm (den : Int), Int.mul_assoc]
  rw [hscale]
  rcases hy with ⟨k, hk⟩ | ⟨hplace, hsmall⟩
  · rw [hk, hscale]
    rcases hrounded k with hlt | ⟨heq, rfl | hparity⟩
    · exact .inl hlt
    · exact .inr ⟨heq, .inl rfl⟩
    · exact .inr ⟨heq, .inr (heven hparity)⟩
  · have hbelow : 2 ^ 52 * 2 ^ place * den ≤ units := Nat.mul_le_of_le_div _ _ _ (hlow hplace)
    have hfar : y.signedUnits * den < (2 ^ 52 * 2 ^ place * den : Nat) :=
      Int.mul_lt_mul_of_pos_right hsmall (Int.natCast_pos.mpr hden)
    have hpower : ((2 ^ 52 : Nat) : Int) * (den * 2 ^ place : Nat) =
        (2 ^ 52 * 2 ^ place * den : Nat) := by
      rw [← hscale, ← Int.natCast_mul, ← Int.natCast_mul]
    have hbetween := hrounded (2 ^ 52 : Nat)
    rw [hpower] at hbetween
    omega

theorem isNearest_ofInt {n : Nat} (hrange : range ≤ 1023) (hlt : n < 2 ^ range) :
    (ofInt n).IsNearest n 1 := by
  have hint : ofInt n = nearest false n 1 := by
    rw [ofInt, Int.natAbs_natCast, decide_eq_false (Int.not_lt.mpr (Int.natCast_nonneg n))]
  rw [hint]
  exact isNearest_nearest hrange (by rwa [Nat.mul_one])

end Nearest

end Binary64

end Narrative
