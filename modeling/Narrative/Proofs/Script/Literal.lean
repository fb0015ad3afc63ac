import Mathlib.Data.Nat.Digits.Defs
import Narrative.Proofs.Number.Numeral
import Narrative.Proofs.Number.Rounding
import Narrative.Script.Literal

/-!
Literals by their shape. Main statement: a literal is a number, a truth value or a text as its
shape says, unless it is a hexadecimal numeral above the largest one that can be written.
-/

namespace Narrative.Script

/-- A hexadecimal numeral and its value: `0x` or `0X` and one or more digits. -/
def IsHexadecimal (text : List Char) (n : Nat) : Prop :=
  ∃ mark digits, ∃ values : List Nat,
    text = '0' :: mark :: digits ∧ (mark = 'x' ∨ mark = 'X') ∧ digits ≠ [] ∧
      digits.map digitValue? = values.map some ∧ n = Nat.ofDigits 16 values.reverse

def IsNamedInfinity (text : List Char) : Prop :=
  text = "Infinity".toList ∨ text = "+Infinity".toList ∨ text = "-Infinity".toList

/-- The shapes of numbers. A hexadecimal numeral can have any number of digits. -/
def IsNumeral (text : List Char) : Prop :=
  IsDecimal text ∨ (∃ n, IsHexadecimal text n) ∨ IsNamedInfinity text

/-- Whether a text stands in double quotes. -/
def IsQuoted (text : List Char) : Prop :=
  2 ≤ text.length ∧ text.head? = some '"' ∧ text.getLast? = some '"'

instance (text : List Char) : Decidable (IsQuoted text) :=
  inferInstanceAs (Decidable (_ ∧ _ ∧ _))

variable {text raw : List Char} {n : Nat}

section Hexadecimals

/-- A row of digits writes the number that has these digits. -/
theorem wholeNumber_eq_ofDigits {base : Nat} {digits : List Char} {values : List Nat}
    (h : digits.map digitValue? = values.map some) :
    wholeNumber base digits = Nat.ofDigits base values.reverse := by
  have hsum : (fun n value : Nat => n * base + value) = fun n value => value + base * n := by
    funext n value
    rw [Nat.add_comm, Nat.mul_comm]
  calc
    wholeNumber base digits =
        (digits.map digitValue?).foldl (fun n value => n * base + value.getD 0) 0 := by
      rw [wholeNumber, List.foldl_map]
    _ = values.foldl (fun n value => n * base + value) 0 := by
      rw [h, List.foldl_map]
      rfl
    _ = Nat.ofDigits base values.reverse := by
      rw [hsum, Nat.ofDigits_eq_foldr, List.foldr_reverse]
      rfl

theorem exists_values_iff {digits : List Char} :
    (∃ values : List Nat, digits.map digitValue? = values.map some) ↔
      digits.all isHexDigit = true := by
  rw [List.all_eq_true]
  constructor
  · rintro ⟨values, h⟩ c hc
    have hmem : digitValue? c ∈ values.map some := h ▸ List.mem_map_of_mem hc
    obtain ⟨value, -, hvalue⟩ := List.mem_map.mp hmem
    rw [isHexDigit, ← hvalue]
    rfl
  · intro h
    refine ⟨digits.map fun c => (digitValue? c).getD 0, ?_⟩
    rw [List.map_map]
    apply List.map_congr_left
    intro c hc
    obtain ⟨value, hvalue⟩ := Option.isSome_iff_exists.mp (h c hc)
    simp [hvalue]

theorem hexadecimal?_eq_some_iff {x : Binary64} :
    hexadecimal? text = some x ↔
      ∃ n, IsHexadecimal text n ∧ n ≤ largestHexadecimal ∧ x = .ofInt n := by
  constructor
  · intro h
    unfold hexadecimal? at h
    split at h
    · rename_i mark digits
      dsimp only at h
      split at h
      · rename_i hfits
        obtain ⟨⟨hmark, hne, hall⟩, hle⟩ := hfits
        obtain ⟨values, hvalues⟩ := exists_values_iff.mpr hall
        cases h
        exact ⟨_, ⟨mark, digits, values, rfl, hmark, hne, hvalues, wholeNumber_eq_ofDigits hvalues⟩,
          hle, rfl⟩
      · cases h
    · cases h
  · rintro ⟨n, ⟨mark, digits, values, rfl, hmark, hne, hvalues, rfl⟩, hle, rfl⟩
    rw [← wholeNumber_eq_ofDigits hvalues] at hle ⊢
    exact if_pos ⟨⟨hmark, hne, exists_values_iff.mp ⟨values, hvalues⟩⟩, hle⟩

theorem isHexadecimal_unique {m : Nat} (hn : IsHexadecimal text n) (hm : IsHexadecimal text m) :
    n = m := by
  obtain ⟨mark, digits, values, htext, -, -, hvalues, rfl⟩ := hn
  obtain ⟨_, _, others, heq, -, -, hothers, rfl⟩ := hm
  simp only [htext, List.cons.injEq, true_and] at heq
  obtain ⟨rfl, rfl⟩ := heq
  rw [(List.map_inj_right fun _ _ => Option.some.inj).mp (hvalues.symm.trans hothers)]

/-- The mark of a hexadecimal numeral is no part of a decimal one. -/
theorem ofChars?_of_isHexadecimal (h : IsHexadecimal text n) : Decimal.ofChars? text = none := by
  obtain ⟨mark, digits, values, rfl, hmark, -⟩ := h
  rw [← Option.not_isSome_iff_eq_none, Decimal.isSome_ofChars?_iff]
  intro hdecimal
  have hread := (Decimal.isSome_ofChars?_iff_fractionOf.mp
    (Decimal.isSome_ofChars?_iff.mpr hdecimal)).2
  rcases hmark with rfl | rfl
  · have hexponent : IsExponent ('x' :: digits) := hread
    cases hexponent with
    | power hmark => exact absurd hmark (by decide)
  · have hexponent : IsExponent ('X' :: digits) := hread
    cases hexponent with
    | power hmark => exact absurd hmark (by decide)

end Hexadecimals

section Numbers

theorem isSome_namedInfinity?_iff : (namedInfinity? text).isSome = true ↔ IsNamedInfinity text := by
  unfold namedInfinity? IsNamedInfinity
  split
  · rename_i hpositive
    simp only [Option.isSome_some, true_iff]
    exact hpositive.elim .inl fun h => .inr (.inl h)
  · split <;> simp_all

/-- Without hexadecimal numerals that are too large, just the numerals are read as numbers. -/
theorem isSome_number?_iff (hfits : ∀ n, IsHexadecimal text n → n ≤ largestHexadecimal) :
    (number? text).isSome = true ↔ IsNumeral text := by
  have hhexadecimal : (hexadecimal? text).isSome = true ↔ ∃ n, IsHexadecimal text n := by
    simp only [Option.isSome_iff_exists, hexadecimal?_eq_some_iff]
    constructor
    · rintro ⟨x, n, hn, -⟩
      exact ⟨n, hn⟩
    · rintro ⟨n, hn⟩
      exact ⟨_, n, hn, hfits n hn, rfl⟩
  simp only [number?, Option.isSome_or, Option.isSome_map, Bool.or_eq_true,
    Decimal.isSome_ofChars?_iff, hhexadecimal, isSome_namedInfinity?_iff]
  rfl

/-- A hexadecimal numeral is read as the number nearest to its value. -/
theorem exists_number?_of_isHexadecimal (h : IsHexadecimal text n) (hle : n ≤ largestHexadecimal) :
    ∃ x, number? text = some x ∧ x.IsNearest n 1 := by
  have hread : hexadecimal? text = some (.ofInt n) := hexadecimal?_eq_some_iff.mpr ⟨n, h, hle, rfl⟩
  have hlt : n < 2 ^ 63 := Nat.lt_of_le_of_lt hle (by decide)
  refine ⟨.ofInt n, ?_, Binary64.isNearest_ofInt (by decide) hlt⟩
  rw [number?, ofChars?_of_isHexadecimal h, hread]
  rfl

/-- A hexadecimal numeral above the largest one is not read as a number. -/
theorem number?_of_wide_hexadecimal (h : IsHexadecimal text n) (hwide : largestHexadecimal < n) :
    number? text = none := by
  have hhexadecimal : hexadecimal? text = none := by
    apply Option.eq_none_iff_forall_ne_some.mpr
    intro x hx
    obtain ⟨m, hm, hle, -⟩ := hexadecimal?_eq_some_iff.mp hx
    rw [isHexadecimal_unique hm h] at hle
    omega
  have hinfinity : namedInfinity? text = none := by
    obtain ⟨mark, digits, values, rfl, -⟩ := h
    rfl
  rw [number?, ofChars?_of_isHexadecimal h, hhexadecimal, hinfinity]
  rfl

/-- No number begins with a quote. -/
theorem number?_quote (rest : List Char) : number? ('"' :: rest) = none := by
  rfl

end Numbers

section Texts

theorem unquoted?_eq (text : List Char) :
    unquoted? text = if IsQuoted text then some text.tail.dropLast else none := by
  match text with
  | [] => rfl
  | [c] =>
      have hshort : ¬ IsQuoted [c] := fun h => absurd h.1 (by simp)
      rw [if_neg hshort]
      unfold unquoted?
      split
      · rename_i rest heq
        cases heq
        rfl
      · rfl
  | c :: d :: rest =>
      by_cases hc : c = '"'
      · simp [unquoted?, IsQuoted, hc]
      · have hopen : ¬ IsQuoted (c :: d :: rest) := fun h => hc (Option.some.inj h.2.1)
        rw [if_neg hopen]
        unfold unquoted?
        split
        · rename_i heq
          exact absurd (List.cons.inj heq).1 hc
        · rfl

/-- A text for what is neither a truth value nor a number, without the quotes around it. -/
def unquoted (text : List Char) : String :=
  String.ofList (if IsQuoted text then text.tail.dropLast else text)

theorem literal_of_toString {b : Bool} (h : Text.trim raw = (toString b).toList) :
    literal raw = .bool b := by
  unfold literal
  rw [h]
  cases b <;> decide

/-- What is no truth value is a quoted text, or else a number, or else a text. -/
theorem literal_of_ne_toString (h : ∀ b : Bool, Text.trim raw ≠ (toString b).toList) :
    literal raw = ((unquoted? (Text.trim raw)).map fun inside => .text (String.ofList inside)).getD
      (((number? (Text.trim raw)).map .number).getD (.text (String.ofList (Text.trim raw)))) := by
  have htrue : Text.trim raw ≠ "true".toList := h true
  have hfalse : Text.trim raw ≠ "false".toList := h false
  unfold literal
  dsimp only
  rw [if_neg htrue, if_neg hfalse]
  cases unquoted? (Text.trim raw) with
  | some inside => rfl
  | none => cases number? (Text.trim raw) <;> rfl

/-- The three kinds of literals. A truth value and a quoted text are not numbers. -/
theorem literal_cases (raw : List Char) :
    (∃ b : Bool, Text.trim raw = (toString b).toList ∧ number? (Text.trim raw) = none ∧
        literal raw = .bool b) ∨
      ((∀ b : Bool, Text.trim raw ≠ (toString b).toList) ∧
        ((∃ x, number? (Text.trim raw) = some x ∧ literal raw = .number x) ∨
          (number? (Text.trim raw) = none ∧ literal raw = .text (unquoted (Text.trim raw))))) := by
  by_cases hword : ∃ b : Bool, Text.trim raw = (toString b).toList
  · obtain ⟨b, hb⟩ := hword
    refine .inl ⟨b, hb, ?_, literal_of_toString hb⟩
    rw [hb]
    cases b <;> decide
  · have hword : ∀ b : Bool, Text.trim raw ≠ (toString b).toList := fun b hb => hword ⟨b, hb⟩
    have hread := literal_of_ne_toString hword
    rw [unquoted?_eq] at hread
    refine .inr ⟨hword, ?_⟩
    unfold unquoted
    by_cases hquoted : IsQuoted (Text.trim raw)
    · rw [if_pos hquoted] at hread ⊢
      obtain ⟨rest, hrest⟩ := List.head?_eq_some_iff.mp hquoted.2.1
      exact .inr ⟨by rw [hrest, number?_quote], hread⟩
    · rw [if_neg hquoted] at hread ⊢
      cases hnumber : number? (Text.trim raw) with
      | none =>
          rw [hnumber] at hread
          exact .inr ⟨rfl, hread⟩
      | some x =>
          rw [hnumber] at hread
          exact .inl ⟨x, rfl, hread⟩

end Texts

/-- A literal is classified by its shape: it is a number just if it is a numeral, a truth value
just if it is one of the two words, and else a text, without the quotes around it if it is quoted.
A hexadecimal numeral is the number nearest to its value. -/
theorem literal_classified
    (hfits : ∀ n, IsHexadecimal (Text.trim raw) n → n ≤ largestHexadecimal) :
    ((∃ x, literal raw = .number x) ↔ IsNumeral (Text.trim raw)) ∧
    (∀ b : Bool, literal raw = .bool b ↔ Text.trim raw = (toString b).toList) ∧
    (∀ s, literal raw = .text s ↔ ¬ IsNumeral (Text.trim raw) ∧
      (∀ b : Bool, Text.trim raw ≠ (toString b).toList) ∧
      s = unquoted (Text.trim raw)) ∧
    ∀ n, IsHexadecimal (Text.trim raw) n → ∃ x, literal raw = .number x ∧ x.IsNearest n 1 := by
  have hnumber := isSome_number?_iff hfits
  have hnearest := fun n h => exists_number?_of_isHexadecimal h (hfits n h)
  rw [← hnumber]
  rcases literal_cases raw with ⟨b, htext, hnone, hread⟩ | ⟨hword, ⟨x, hx, hread⟩ | ⟨hnone, hread⟩⟩
  · rw [hread, hnone]
    refine ⟨by simp, fun other => ?_, fun s => ?_, fun n h => ?_⟩
    · rw [htext]
      cases b <;> cases other <;> decide
    · cases b <;> simp [htext]
    · obtain ⟨x, hx, -⟩ := hnearest n h
      cases hnone.symm.trans hx
  · rw [hread, hx]
    refine ⟨by simp, fun b => by simp [hword b], fun s => by simp, fun n h => ?_⟩
    obtain ⟨other, hother, hclose⟩ := hnearest n h
    cases hx.symm.trans hother
    exact ⟨x, rfl, hclose⟩
  · rw [hread, hnone]
    refine ⟨by simp, fun b => by simp [hword b], fun s => ?_, fun n h => ?_⟩
    · simp [hword, eq_comm]
    · obtain ⟨x, hx, -⟩ := hnearest n h
      cases hnone.symm.trans hx

/-- A hexadecimal numeral between blanks. -/
theorem literal_classified_at_thirtyOne :
    (∀ n, IsHexadecimal (Text.trim " 0x1F ".toList) n → n ≤ largestHexadecimal) ∧
      ∃ x, literal " 0x1F ".toList = .number x ∧ x.IsNearest 31 1 := by
  have hnumeral : IsHexadecimal (Text.trim " 0x1F ".toList) 31 :=
    ⟨'x', ['1', 'F'], [1, 15], by decide, .inl rfl, by decide, by decide, by decide⟩
  have hfits : ∀ n, IsHexadecimal (Text.trim " 0x1F ".toList) n → n ≤ largestHexadecimal := by
    intro n h
    rw [isHexadecimal_unique h hnumeral]
    decide
  obtain ⟨-, -, -, hnearest⟩ := literal_classified hfits
  exact ⟨hfits, hnearest 31 hnumeral⟩

/-- A hexadecimal numeral above the largest one is a text. -/
theorem literal_of_wide_hexadecimal (h : IsHexadecimal (Text.trim raw) n)
    (hwide : largestHexadecimal < n) :
    literal raw = .text (String.ofList (Text.trim raw)) := by
  have hnone := number?_of_wide_hexadecimal h hwide
  obtain ⟨mark, digits, values, htext, -⟩ := h
  rcases literal_cases raw with ⟨b, hword, -⟩ | ⟨-, ⟨x, hx, -⟩ | ⟨-, hread⟩⟩
  · rw [htext] at hword
    cases b <;> cases hword
  · cases hnone.symm.trans hx
  · have hopen : ¬ IsQuoted (Text.trim raw) := by
      rw [htext]
      exact fun hquoted => absurd (Option.some.inj hquoted.2.1) (by decide)
    rw [hread, unquoted, if_neg hopen]

/-- The first hexadecimal numeral above the largest one is a numeral, but it is not read as a
number. -/
theorem not_literal_classified_at_wideHexadecimal :
    ¬ ((∃ x, literal "0x8000000000000000".toList = .number x) ↔
      IsNumeral (Text.trim "0x8000000000000000".toList)) := by
  have hnumeral : IsHexadecimal (Text.trim "0x8000000000000000".toList) (2 ^ 63) :=
    ⟨'x', "8000000000000000".toList, 8 :: List.replicate 15 0, by decide, .inl rfl, by decide,
      by decide, by decide⟩
  intro hclassified
  obtain ⟨x, hx⟩ := hclassified.mpr (.inr (.inl ⟨_, hnumeral⟩))
  cases (literal_of_wide_hexadecimal hnumeral (by decide)).symm.trans hx

end Narrative.Script
