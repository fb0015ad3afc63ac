import Narrative.Number.Decimal

/-!
Decimal numerals by their grammar. Main statement: a text is read as a number just if it is derived
by the grammar, however long it is.
-/

namespace Narrative

/-- One or more decimal digits. -/
def IsDigits (text : List Char) : Prop :=
  text ≠ [] ∧ ∀ c ∈ text, isDecimalDigit c = true

inductive IsSign : List Char → Prop where
  | none : IsSign []
  | plus : IsSign ['+']
  | minus : IsSign ['-']

/-- Digits with an optional point and further digits, or a point and digits. -/
inductive IsMantissa : List Char → Prop where
  | whole {digits : List Char} (hdigits : IsDigits digits) : IsMantissa digits
  | pointed {digits fraction : List Char} (hdigits : IsDigits digits)
      (hfraction : ∀ c ∈ fraction, isDecimalDigit c = true) : IsMantissa (digits ++ '.' :: fraction)
  | fraction {digits : List Char} (hdigits : IsDigits digits) : IsMantissa ('.' :: digits)

/-- Nothing, or `e` or `E` with a sign and digits. -/
inductive IsExponent : List Char → Prop where
  | none : IsExponent []
  | power {mark : Char} {sign digits : List Char} (hmark : mark = 'e' ∨ mark = 'E')
      (hsign : IsSign sign) (hdigits : IsDigits digits) : IsExponent (mark :: (sign ++ digits))

/-- A decimal numeral: a sign, a mantissa and an exponent. -/
inductive IsDecimal : List Char → Prop where
  | intro {sign mantissa exponent : List Char} (hsign : IsSign sign)
      (hmantissa : IsMantissa mantissa) (hexponent : IsExponent exponent) :
      IsDecimal (sign ++ (mantissa ++ exponent))

namespace Decimal

variable {sign mantissa exponent digits text rest : List Char}

section Signs

theorem exists_sign_of_takeSign (text : List Char) :
    ∃ sign, IsSign sign ∧ text = sign ++ (takeSign text).2 := by
  unfold takeSign
  split
  · exact ⟨['-'], .minus, rfl⟩
  · exact ⟨['+'], .plus, rfl⟩
  · exact ⟨[], .none, rfl⟩

/-- A sign is taken off what does not begin with another. -/
theorem takeSign_append (hsign : IsSign sign) (htext : ∀ c ∈ text.head?, c ≠ '+' ∧ c ≠ '-') :
    (takeSign (sign ++ text)).2 = text := by
  cases hsign with
  | none =>
      rw [List.nil_append]
      unfold takeSign
      split
      · exact absurd rfl (htext '-' rfl).2
      · exact absurd rfl (htext '+' rfl).1
      · rfl
  | plus => rfl
  | minus => rfl

end Signs

section Digits

theorem ne_sign_of_isDecimalDigit {c : Char} (h : isDecimalDigit c = true) : c ≠ '+' ∧ c ≠ '-' := by
  constructor <;> rintro rfl <;> exact absurd h (by decide)

theorem isDecimalDigit_head (h : IsDigits digits) (rest : List Char) :
    ∀ c ∈ (digits ++ rest).head?, isDecimalDigit c = true := by
  obtain ⟨c, others, rfl⟩ := List.exists_cons_of_ne_nil h.1
  intro d hd
  cases hd
  exact h.2 c List.mem_cons_self

/-- A row of digits ends where something else begins. -/
theorem span_digits (hdigits : ∀ c ∈ digits, isDecimalDigit c = true)
    (hrest : ∀ c ∈ rest.head?, isDecimalDigit c = false) :
    (digits ++ rest).takeWhile isDecimalDigit = digits ∧
      (digits ++ rest).dropWhile isDecimalDigit = rest := by
  rw [List.takeWhile_append_of_pos hdigits, List.dropWhile_append_of_pos hdigits]
  cases rest with
  | nil => simp
  | cons c rest => simp [hrest c rfl]

theorem isDigits_iff : IsDigits digits ↔ digits ≠ [] ∧ digits.all isDecimalDigit = true := by
  rw [IsDigits, List.all_eq_true]

end Digits

section Exponents

theorem isSome_exponent?_cons_iff (mark : Char) (text : List Char) :
    (exponent? (mark :: text)).isSome = true ↔
      (mark = 'e' ∨ mark = 'E') ∧ IsDigits (takeSign text).2 := by
  rw [isDigits_iff]
  unfold exponent?
  dsimp only
  split <;> simp_all

theorem isSome_exponent?_iff : (exponent? text).isSome = true ↔ IsExponent text := by
  constructor
  · intro h
    cases text with
    | nil => exact .none
    | cons mark text =>
        obtain ⟨hmark, hdigits⟩ := (isSome_exponent?_cons_iff mark text).mp h
        obtain ⟨sign, hsign, htext⟩ := exists_sign_of_takeSign text
        rw [htext]
        exact .power hmark hsign hdigits
  · rintro (_ | @⟨_, sign, row, hmark, hsign, hrow⟩)
    · rfl
    · rw [isSome_exponent?_cons_iff, takeSign_append hsign]
      · exact ⟨hmark, hrow⟩
      · intro c hc
        rw [← List.append_nil row] at hc
        exact ne_sign_of_isDecimalDigit (isDecimalDigit_head hrow [] c hc)

theorem exponent_head (h : IsExponent exponent) :
    ∀ c ∈ exponent.head?, c ≠ '.' ∧ isDecimalDigit c = false := by
  intro c hc
  cases h with
  | none => cases hc
  | power hmark hsign hdigits =>
      cases hc
      rcases hmark with rfl | rfl <;> decide

end Exponents

section Mantissas

theorem mantissa_head (h : IsMantissa mantissa) :
    ∀ c ∈ (mantissa ++ rest).head?, c ≠ '+' ∧ c ≠ '-' := by
  intro c hc
  cases h with
  | whole hdigits => exact ne_sign_of_isDecimalDigit (isDecimalDigit_head hdigits _ c hc)
  | pointed hdigits hfraction =>
      rw [List.append_assoc] at hc
      exact ne_sign_of_isDecimalDigit (isDecimalDigit_head hdigits _ c hc)
  | fraction hdigits =>
      cases hc
      decide

/-- The digits after a point, if there is one, and what is left of the text. -/
def fractionOf : List Char → List Char × List Char
  | '.' :: rest => (rest.takeWhile isDecimalDigit, rest.dropWhile isDecimalDigit)
  | text => ([], text)

theorem fractionOf_of_head? (h : ∀ c ∈ text.head?, c ≠ '.') : fractionOf text = ([], text) := by
  unfold fractionOf
  split
  · exact absurd rfl (h '.' rfl)
  · rfl

theorem isSome_ite_map {α β : Type} {p : Prop} [Decidable p] {f : α → β} {o : Option α} :
    (if p then none else o.map f).isSome = true ↔ ¬p ∧ o.isSome = true := by
  split <;> simp_all

theorem isSome_ofChars?_iff_fractionOf :
    (ofChars? text).isSome = true ↔
      (takeSign text).2.takeWhile isDecimalDigit ++
          (fractionOf ((takeSign text).2.dropWhile isDecimalDigit)).1 ≠ [] ∧
        IsExponent (fractionOf ((takeSign text).2.dropWhile isDecimalDigit)).2 := by
  rw [← isSome_exponent?_iff]
  unfold ofChars?
  dsimp only
  cases (takeSign text).2.dropWhile isDecimalDigit with
  | nil => exact isSome_ite_map
  | cons c rest =>
      by_cases hc : c = '.'
      · rw [hc]
        exact isSome_ite_map
      · rw [fractionOf_of_head? (by simpa using hc)]
        split
        · rename_i heq
          exact absurd (List.cons.inj heq).1 hc
        · exact isSome_ite_map

/-- Digits, a fraction and an exponent make a mantissa and an exponent. -/
theorem exists_mantissa_of_fractionOf
    (hdigits : text.takeWhile isDecimalDigit ++
      (fractionOf (text.dropWhile isDecimalDigit)).1 ≠ [])
    (hexponent : IsExponent (fractionOf (text.dropWhile isDecimalDigit)).2) :
    ∃ mantissa exponent, IsMantissa mantissa ∧ IsExponent exponent ∧
      text = mantissa ++ exponent := by
  have hwhole : ∀ c ∈ text.takeWhile isDecimalDigit, isDecimalDigit c = true :=
    List.all_eq_true.mp List.all_takeWhile
  have htext : text.takeWhile isDecimalDigit ++ text.dropWhile isDecimalDigit = text :=
    List.takeWhile_append_dropWhile
  generalize text.takeWhile isDecimalDigit = whole at *
  generalize text.dropWhile isDecimalDigit = afterWhole at *
  subst htext
  unfold fractionOf at hexponent hdigits
  split at hexponent
  · rename_i rest
    have hfraction : ∀ c ∈ rest.takeWhile isDecimalDigit, isDecimalDigit c = true :=
      List.all_eq_true.mp List.all_takeWhile
    have hrest : rest = rest.takeWhile isDecimalDigit ++ rest.dropWhile isDecimalDigit :=
      List.takeWhile_append_dropWhile.symm
    refine ⟨whole ++ '.' :: rest.takeWhile isDecimalDigit, rest.dropWhile isDecimalDigit, ?_,
      hexponent, by simp⟩
    cases whole with
    | nil => exact .fraction ⟨hdigits, hfraction⟩
    | cons c whole => exact .pointed ⟨by simp, hwhole⟩ hfraction
  · exact ⟨whole, afterWhole, .whole ⟨by simpa using hdigits, hwhole⟩, hexponent, rfl⟩

/-- Digits, a point and a fraction are read as such, up to what is no digit. -/
theorem fractionOf_pointed {fraction : List Char} (hdigits : ∀ c ∈ digits, isDecimalDigit c = true)
    (hfraction : ∀ c ∈ fraction, isDecimalDigit c = true)
    (hrest : ∀ c ∈ rest.head?, isDecimalDigit c = false) :
    (digits ++ '.' :: fraction ++ rest).takeWhile isDecimalDigit = digits ∧
      fractionOf ((digits ++ '.' :: fraction ++ rest).dropWhile isDecimalDigit) =
        (fraction, rest) := by
  have hpoint : ∀ c ∈ ('.' :: (fraction ++ rest)).head?, isDecimalDigit c = false := by
    simp only [List.head?_cons, Option.mem_some_iff, forall_eq']
    decide
  obtain ⟨htake, hdrop⟩ := span_digits hdigits hpoint
  obtain ⟨htakeFraction, hdropFraction⟩ := span_digits hfraction hrest
  rw [List.append_assoc, List.cons_append, htake, hdrop, fractionOf, htakeFraction, hdropFraction]
  exact ⟨rfl, rfl⟩

/-- A mantissa and an exponent are read as digits with a fraction and that exponent. -/
theorem fractionOf_mantissa (hmantissa : IsMantissa mantissa) (hexponent : IsExponent exponent) :
    (mantissa ++ exponent).takeWhile isDecimalDigit ++
        (fractionOf ((mantissa ++ exponent).dropWhile isDecimalDigit)).1 ≠ [] ∧
      (fractionOf ((mantissa ++ exponent).dropWhile isDecimalDigit)).2 = exponent := by
  have hhead : ∀ c ∈ exponent.head?, isDecimalDigit c = false :=
    fun c hc => (exponent_head hexponent c hc).2
  cases hmantissa with
  | whole hdigits =>
      obtain ⟨htake, hdrop⟩ := span_digits hdigits.2 hhead
      rw [htake, hdrop, fractionOf_of_head? fun c hc => (exponent_head hexponent c hc).1]
      exact ⟨by simpa using hdigits.1, rfl⟩
  | pointed hdigits hfraction =>
      obtain ⟨htake, hpoint⟩ := fractionOf_pointed hdigits.2 hfraction hhead
      rw [htake, hpoint]
      exact ⟨by simp [hdigits.1], rfl⟩
  | fraction hdigits =>
      obtain ⟨htake, hpoint⟩ :=
        fractionOf_pointed (List.forall_mem_nil (isDecimalDigit · = true)) hdigits.2 hhead
      rw [List.nil_append] at htake hpoint
      rw [htake, hpoint]
      exact ⟨by simpa using hdigits.1, rfl⟩

end Mantissas

/-- A text is read as a decimal number just if it is a decimal numeral. -/
theorem isSome_ofChars?_iff : (ofChars? text).isSome = true ↔ IsDecimal text := by
  rw [isSome_ofChars?_iff_fractionOf]
  constructor
  · rintro ⟨hdigits, hexponent⟩
    obtain ⟨sign, hsign, htext⟩ := exists_sign_of_takeSign text
    obtain ⟨mantissa, exponent, hmantissa, hexponent, hunsigned⟩ :=
      exists_mantissa_of_fractionOf hdigits hexponent
    rw [htext, hunsigned]
    exact .intro hsign hmantissa hexponent
  · rintro ⟨hsign, hmantissa, hexponent⟩
    rw [takeSign_append hsign (mantissa_head hmantissa)]
    obtain ⟨hdigits, htail⟩ := fractionOf_mantissa hmantissa hexponent
    exact ⟨hdigits, by rwa [htail]⟩

end Decimal

end Narrative
