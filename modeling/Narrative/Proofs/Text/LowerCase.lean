import Mathlib.Data.List.DropRight
import Narrative.Proofs.Text.Split
import Narrative.Text.LowerCase

/-!
Lower-casing a part of a text. Only a capital sigma looks beyond itself: at the end of a word it
becomes another letter. So a part of a text has the same lower-case form alone as in its place, if
every capital sigma in it can be told from the part alone to end a word or not. Main statement:
these are the texts that lower-case to a part of every text that has them as a part.
-/

namespace Narrative.Text

variable {before after far far' text : List Char} {c : Char}

/-- Whether a text has a character that is not passed over when cased letters are looked for. -/
def Halts (text : List Char) : Prop :=
  ∃ c ∈ text, inRanges caseIgnorableRanges c.toNat = false

/-- Whether a capital sigma ends a word that stands between such characters, those before it nearest
first. -/
def endsWord (before after : List Char) : Bool :=
  meetsCased before && !meetsCased after

/-- Whether the characters around a capital sigma, those before it nearest first, tell if it ends a
word, whatever stands farther off. They do if a cased letter comes after it, for then it ends none.
Else some character before it must not be passed over; and if the nearest of these is a cased
letter, some character after it must not be passed over either. -/
def TellsEnd (before after : List Char) : Prop :=
  meetsCased after = true ∨ Halts before ∧ (meetsCased before = false ∨ Halts after)

/-- Whether every capital sigma of a text can be told from the text alone to end a word or not. -/
def TellsEnds (text : List Char) : Prop :=
  ∀ before after, text = before ++ 'Σ' :: after → TellsEnd before.reverse after

instance (text : List Char) : Decidable (Halts text) :=
  inferInstanceAs (Decidable (∃ c ∈ text, inRanges caseIgnorableRanges c.toNat = false))

instance (before after : List Char) : Decidable (TellsEnd before after) :=
  inferInstanceAs (Decidable
    (meetsCased after = true ∨ Halts before ∧ (meetsCased before = false ∨ Halts after)))

theorem tellsEnds_iff_getElem :
    TellsEnds text ↔ ∀ (i : Nat) (h : i < text.length), text[i] = 'Σ' →
      TellsEnd (text.take i).reverse (text.drop (i + 1)) := by
  constructor
  · intro h i hi hsigma
    apply h
    rw [← hsigma, List.getElem_cons_drop, List.take_append_drop]
  · rintro h before after rfl
    simpa using h before.length (by simp) (by simp)

instance (text : List Char) : Decidable (TellsEnds text) :=
  decidable_of_iff _ tellsEnds_iff_getElem.symm

section Context

theorem meetsCased_append (h : Halts text) (far : List Char) :
    meetsCased (text ++ far) = meetsCased text := by
  obtain ⟨c, hc, hhalt⟩ := h
  have hne : text.dropWhile (fun c => inRanges caseIgnorableRanges c.toNat) ≠ [] := by
    intro hnil
    have hpassed := List.dropWhile_eq_nil_iff.mp hnil c hc
    rw [hhalt] at hpassed
    cases hpassed
  obtain ⟨d, rest, hrest⟩ := List.exists_cons_of_ne_nil hne
  simp [meetsCased, List.dropWhile_append, hrest]

theorem meetsCased_append_of_not_halts (h : ¬ Halts text) (far : List Char) :
    meetsCased (text ++ far) = meetsCased far := by
  have hall : ∀ c ∈ text, inRanges caseIgnorableRanges c.toNat = true := by
    simpa [Halts] using h
  rw [meetsCased, List.dropWhile_append_of_pos hall, meetsCased]

theorem halts_of_meetsCased (h : meetsCased text = true) : Halts text := by
  by_contra hnone
  have hnil := meetsCased_append_of_not_halts hnone []
  rw [List.append_nil, h] at hnil
  cases hnil

theorem halts_of_mem_sigma (h : 'Σ' ∈ text) : Halts text :=
  ⟨'Σ', h, by decide +kernel⟩

theorem endsWord_append (h : TellsEnd before after) (far far' : List Char) :
    endsWord (before ++ far) (after ++ far') = endsWord before after := by
  rcases h with hcased | ⟨hbefore, hword⟩
  · have hafter := meetsCased_append (halts_of_meetsCased hcased) far'
    simp [endsWord, hafter, hcased]
  · rw [endsWord, meetsCased_append hbefore]
    rcases hword with hnone | hafter
    · simp [endsWord, hnone]
    · rw [meetsCased_append hafter, endsWord]

end Context

section Between

/-- The lower-case form of a text between such characters, those before it nearest first. -/
def lowerBetween (before : List Char) : List Char → List Char → List Char
  | [], _ => []
  | c :: text, after => lowerAt before c (text ++ after) ++ lowerBetween (c :: before) text after

theorem lowerAfter_append (before text after : List Char) :
    lowerAfter before (text ++ after) =
      lowerBetween before text after ++ lowerAfter (text.reverse ++ before) after := by
  induction text generalizing before with
  | nil => rfl
  | cons c text ih => simp [lowerAfter, lowerBetween, ih]

theorem lowerAfter_eq_lowerBetween (before text : List Char) :
    lowerAfter before text = lowerBetween before text [] := by
  simpa [lowerAfter] using lowerAfter_append before text []

theorem lowerBetween_append (before text other after : List Char) :
    lowerBetween before (text ++ other) after =
      lowerBetween before text (other ++ after) ++
        lowerBetween (text.reverse ++ before) other after := by
  induction text generalizing before with
  | nil => rfl
  | cons c text ih => simp [lowerBetween, ih]

theorem lowerAt_sigma (before after : List Char) :
    lowerAt before 'Σ' after = if endsWord before after then ['ς'] else ['σ'] := by
  simp [lowerAt, endsWord]

/-- What a text is between matters to its capital sigmas only. -/
theorem lowerBetween_congr {before' after' : List Char}
    (h : ∀ left right, text = left ++ 'Σ' :: right →
      endsWord (left.reverse ++ before) (right ++ after) =
        endsWord (left.reverse ++ before') (right ++ after')) :
    lowerBetween before text after = lowerBetween before' text after' := by
  induction text generalizing before before' with
  | nil => rfl
  | cons c text ih =>
      have hfirst : lowerAt before c (text ++ after) = lowerAt before' c (text ++ after') := by
        by_cases hc : c = 'Σ'
        · subst hc
          have hends : endsWord before (text ++ after) = endsWord before' (text ++ after') :=
            h [] text rfl
          rw [lowerAt_sigma, lowerAt_sigma, hends]
        · simp [lowerAt, hc]
      rw [lowerBetween, lowerBetween, hfirst]
      congr 1
      apply ih
      intro left right htext
      have hends := h (c :: left) right (by rw [htext, List.cons_append])
      simpa using hends

theorem lower_append_append (before text after : List Char) :
    lower (before ++ text ++ after) =
      lowerBetween [] before (text ++ after) ++ lowerBetween before.reverse text after ++
        lowerAfter (text.reverse ++ before.reverse) after := by
  rw [lower, List.append_assoc, lowerAfter_append, lowerAfter_append, List.append_nil,
    List.append_assoc]

/-- A text of which the capital sigmas are settled has its lower-case form in every place. -/
theorem lowerBetween_of_tellsEnds (h : TellsEnds text) (before after : List Char) :
    lowerBetween before text after = lower text := by
  rw [lower, lowerAfter_eq_lowerBetween]
  apply lowerBetween_congr
  intro left right htext
  have htells := h left right htext
  rw [endsWord_append htells, endsWord_append htells]

theorem lowerAt_ne_nil (before : List Char) (c : Char) (after : List Char) :
    lowerAt before c after ≠ [] := by
  unfold lowerAt
  split
  · split <;> simp
  · split <;> simp

theorem lower_ne_nil (h : text ≠ []) : lower text ≠ [] := by
  cases text with
  | nil => exact absurd rfl h
  | cons c text => simp [lower, lowerAfter, lowerAt_ne_nil]

theorem isInfix_lower (h : TellsEnds text) (before after : List Char) :
    lower text <:+: lower (before ++ text ++ after) := by
  rw [lower_append_append, lowerBetween_of_tellsEnds h]
  exact ⟨_, _, rfl⟩

end Between

section Undecided

variable {left right : List Char}

theorem meetsCased_of_not_halts (h : ¬ Halts text) : meetsCased text = false := by
  simpa using mt halts_of_meetsCased h

theorem not_tellsEnd (h : ¬ TellsEnd before after) :
    meetsCased after = false ∧ (¬ Halts before ∨ meetsCased before = true ∧ ¬ Halts after) := by
  rw [TellsEnd, not_or, not_and_or, not_or] at h
  simpa using h

/-- A capital sigma with what comes before it and after it in a text in its place. -/
theorem lower_around_sigma (before left right after : List Char) :
    lower (before ++ (left ++ 'Σ' :: right) ++ after) =
      lowerBetween [] before (left ++ 'Σ' :: right ++ after) ++
        (lowerBetween before.reverse left ('Σ' :: right ++ after) ++
          (lowerAt (left.reverse ++ before.reverse) 'Σ' (right ++ after) ++
            lowerBetween ('Σ' :: (left.reverse ++ before.reverse)) right after)) ++
        lowerAfter ((left ++ 'Σ' :: right).reverse ++ before.reverse) after := by
  rw [lower_append_append, lowerBetween_append before.reverse left, lowerBetween]

theorem lower_at_sigma (left right : List Char) :
    lower (left ++ 'Σ' :: right) =
      lowerBetween [] left ('Σ' :: right) ++
        (lowerAt left.reverse 'Σ' right ++ lowerBetween ('Σ' :: left.reverse) right []) := by
  simpa [lowerBetween, lowerAfter] using lower_around_sigma [] left right []

theorem lowerBetween_of_notMem (h : 'Σ' ∉ text) (before before' after after' : List Char) :
    lowerBetween before text after = lowerBetween before' text after' := by
  apply lowerBetween_congr
  intro left right htext
  exact absurd (htext ▸ List.mem_append_right left List.mem_cons_self) h

/-- What comes after a capital sigma does not matter to those before it. -/
theorem lowerBetween_sigma_append (before text right far : List Char) :
    lowerBetween before text ('Σ' :: right ++ far) = lowerBetween before text ('Σ' :: right) := by
  apply lowerBetween_congr
  intro left middle _
  have hhalts : Halts (middle ++ 'Σ' :: right) := halts_of_mem_sigma (by simp)
  rw [← List.append_assoc, endsWord, meetsCased_append hhalts, endsWord]

/-- What comes before a capital sigma does not matter to those after it. -/
theorem lowerBetween_append_sigma (left far text after : List Char) :
    lowerBetween ('Σ' :: (left ++ far)) text after = lowerBetween ('Σ' :: left) text after := by
  apply lowerBetween_congr
  intro middle right _
  have hhalts : Halts (middle.reverse ++ 'Σ' :: left) := halts_of_mem_sigma (by simp)
  rw [← List.cons_append, ← List.append_assoc, endsWord, meetsCased_append hhalts, endsWord]

/-- A text is no part of the text in which one of its letters is replaced, if what is put around
that lacks the letter. -/
theorem not_isInfix_of_replaced {own other : Char} (hother : own ≠ other) (hbefore : own ∉ before)
    (hafter : own ∉ after) (left right : List Char) :
    ¬ left ++ own :: right <:+: before ++ (left ++ other :: right) ++ after := by
  intro hinfix
  have hcount := hinfix.sublist.count_le own
  simp only [List.count_append, List.count_cons_self, List.count_cons_of_ne (Ne.symm hother),
    List.count_eq_zero_of_not_mem hbefore, List.count_eq_zero_of_not_mem hafter] at hcount
  omega

theorem lowerAt_alpha (before after : List Char) : lowerAt before 'Α' after = ['α'] := by
  have hchar : lowerChar 'Α' = 'α' := by decide +kernel
  simp [lowerAt, hchar]

theorem meetsCased_alpha : meetsCased ['Α'] = true := by
  decide +kernel

/-- After a letter a capital sigma ends a word, if nothing between the two halts and no cased letter
comes after it. -/
theorem not_isInfix_lower_after_alpha (hleft : ¬ Halts left.reverse)
    (hright : meetsCased right = false) :
    ¬ lower (left ++ 'Σ' :: right) <:+: lower (['Α'] ++ (left ++ 'Σ' :: right) ++ []) := by
  have halone : endsWord left.reverse right = false := by
    simp [endsWord, meetsCased_of_not_halts hleft]
  have hplaced : endsWord (left.reverse ++ ['Α']) right = true := by
    simp [endsWord, meetsCased_append_of_not_halts hleft, meetsCased_alpha, hright]
  have hnone : 'Σ' ∉ left := fun hmem => hleft (halts_of_mem_sigma (List.mem_reverse.mpr hmem))
  have hafter : lower (['Α'] ++ (left ++ 'Σ' :: right) ++ []) =
      ['α'] ++ (lowerBetween ['Α'] left ('Σ' :: right) ++
        'ς' :: lowerBetween ('Σ' :: (left.reverse ++ ['Α'])) right []) ++ [] := by
    rw [lower_around_sigma]
    simp [lowerBetween, lowerAfter, lowerAt_sigma, lowerAt_alpha, hplaced]
  rw [lower_at_sigma, lowerAt_sigma, halone, hafter, lowerBetween_append_sigma,
    lowerBetween_of_notMem hnone ['Α'] [] ('Σ' :: right) ('Σ' :: right)]
  exact not_isInfix_of_replaced (by decide) (by decide) (by decide) _ _

/-- Before a letter a capital sigma ends no word, if nothing between the two halts. -/
theorem not_isInfix_lower_before_alpha (hleft : meetsCased left.reverse = true)
    (hright : ¬ Halts right) :
    ¬ lower (left ++ 'Σ' :: right) <:+: lower ([] ++ (left ++ 'Σ' :: right) ++ ['Α']) := by
  have halone : endsWord left.reverse right = true := by
    simp [endsWord, hleft, meetsCased_of_not_halts hright]
  have hplaced : endsWord left.reverse (right ++ ['Α']) = false := by
    simp [endsWord, meetsCased_append_of_not_halts hright, meetsCased_alpha]
  have hnone : 'Σ' ∉ right := fun hmem => hright (halts_of_mem_sigma hmem)
  have hbefore : lower ([] ++ (left ++ 'Σ' :: right) ++ ['Α']) =
      [] ++ (lowerBetween [] left ('Σ' :: right ++ ['Α']) ++
        'σ' :: lowerBetween ('Σ' :: left.reverse) right ['Α']) ++ ['α'] := by
    rw [lower_around_sigma]
    simp [lowerBetween, lowerAfter, lowerAt_sigma, lowerAt_alpha, hplaced]
  rw [lower_at_sigma, lowerAt_sigma, halone, hbefore, lowerBetween_sigma_append,
    lowerBetween_of_notMem hnone ('Σ' :: left.reverse) ('Σ' :: left.reverse) ['Α'] []]
  exact not_isInfix_of_replaced (by decide) (by decide) (by decide) _ _

/-- A text lower-cases to a part of every text that it is a part of, if and only if every capital
sigma in it can be told from it alone to end a word or not. -/
theorem tellsEnds_iff_isInfix_lower :
    TellsEnds text ↔ ∀ before after, lower text <:+: lower (before ++ text ++ after) := by
  constructor
  · exact isInfix_lower
  · rintro hall left right rfl
    by_contra hnot
    obtain ⟨hright, hleft | ⟨hcased, hhalts⟩⟩ := not_tellsEnd hnot
    · exact not_isInfix_lower_after_alpha hleft hright (hall ['Α'] [])
    · exact not_isInfix_lower_before_alpha hcased hhalts (hall [] ['Α'])

end Undecided

end Narrative.Text
