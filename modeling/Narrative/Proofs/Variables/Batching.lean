import Narrative.Proofs.Variables.Setting

/-!
Overlays laid on one after another, and overlays put together first. Main statement: two overlays
can be put together before they are laid on if and only if no value of the first stands where the
second has a scope.
-/

namespace Narrative

namespace Scope

variable {a b : Scope} {path : List String}

/-- Whether some path ends at a value of the first scope and at a scope of the second one. -/
def Clash (a b : Scope) : Prop :=
  ∃ path v, a.held? path = some (.value v) ∧ b.held? path = some .scope

/-- Where nothing came in above, a value stands above in the overlay if one stood there before,
and no scope took its place. -/
theorem valueAbove_merge_iff (hfree : ¬ a.Clash b) (hb : ¬ b.ValueAbove path) :
    (a.merge b).ValueAbove path ↔ a.ValueAbove path := by
  have hnone {above : List String} {v : Value} (hbegins : above <+: path) (hne : above ≠ path) :
      b.held? above ≠ some (.value v) :=
    fun hheld => hb (valueAbove_iff.mpr ⟨above, v, hbegins, hne, hheld⟩)
  rw [valueAbove_iff, valueAbove_iff]
  constructor
  · rintro ⟨above, v, hbegins, hne, hheld⟩
    rw [held?_merge] at hheld
    rcases Option.or_eq_some_iff.mp hheld with hincoming | ⟨-, hbefore⟩
    · exact absurd hincoming (hnone hbegins hne)
    · exact ⟨above, v, hbegins, hne, (ite_eq_iff.mp hbefore).elim (by simp) And.right⟩
  · rintro ⟨above, v, hbegins, hne, hheld⟩
    refine ⟨above, v, hbegins, hne, ?_⟩
    rw [held?_merge]
    cases hincoming : b.held? above with
    | none => simp [hheld, mt (ValueAbove.mono · hbegins) hb]
    | some holding =>
        cases holding with
        | value w => exact absurd hincoming (hnone hbegins hne)
        | scope => exact absurd ⟨above, v, hheld, hincoming⟩ hfree

theorem ValueAbove.merge (h : b.ValueAbove path) : (a.merge b).ValueAbove path := by
  obtain ⟨above, v, hbegins, hne, hheld⟩ := valueAbove_iff.mp h
  exact valueAbove_iff.mpr ⟨above, v, hbegins, hne, by rw [held?_merge, hheld]; rfl⟩

theorem merge_merge_of_not_clash (hfree : ¬ a.Clash b) (s : Scope) :
    (s.merge a).merge b = s.merge (a.merge b) := by
  apply eq_of_held?_eq
  intro path
  rw [held?_merge, held?_merge, held?_merge s, held?_merge a]
  cases b.held? path with
  | some holding => rfl
  | none =>
      by_cases hb : b.ValueAbove path
      · have hboth : (a.merge b).ValueAbove path := hb.merge
        simp [hb, hboth]
      · have habove := valueAbove_merge_iff hfree hb
        simp [hb, habove]

/-- Where a value stands in the way of a scope, a variable in that scope tells the two orders
apart: the value wipes it out before the scope comes in, but not after they are put together. -/
theorem exists_merge_merge_ne (hclash : a.Clash b) :
    ∃ s : Scope, (s.merge a).merge b ≠ s.merge (a.merge b) := by
  obtain ⟨path, v, hvalue, hscope⟩ := hclash
  obtain ⟨name, hfree⟩ := exists_free_name hscope
  have habove : a.ValueAbove (path ++ [name]) := valueAbove_concat.mpr (.inr ⟨v, hvalue⟩)
  have hbelow : a.held? (path ++ [name]) = none := by
    cases hheld : a.held? (path ++ [name]) with
    | none => rfl
    | some holding => exact absurd habove (not_valueAbove_of_held? hheld)
  have hnone {s : Scope} (hs : s.held? path = some .scope) : ¬ s.ValueAbove (path ++ [name]) := by
    rw [valueAbove_concat, hs]
    rintro (habove | ⟨w, hw⟩)
    · exact not_valueAbove_of_held? hs habove
    · cases hw
  have hmerged : (a.merge b).held? path = some .scope := by
    rw [held?_merge, hscope]
    rfl
  obtain ⟨s, hs⟩ : ∃ s : Scope, s.held? (path ++ [name]) = some (.value v) :=
    ⟨empty.set (path ++ [name]) v, by simp [held?_set_empty]⟩
  refine ⟨s, fun heq => ?_⟩
  have hleft : ((s.merge a).merge b).held? (path ++ [name]) = none := by
    simp [held?_merge, hfree, hbelow, habove]
  have hright : (s.merge (a.merge b)).held? (path ++ [name]) = some (.value v) := by
    simp [held?_merge, hfree, hbelow, hs, hnone hscope, hnone hmerged]
  rw [heq, hright] at hleft
  cases hleft

/-- Laying one overlay on after another is the same as laying both on together, whatever they
are laid on, if and only if no value of the first stands where the second has a scope. -/
theorem merge_merge_iff (a b : Scope) :
    (∀ s : Scope, (s.merge a).merge b = s.merge (a.merge b)) ↔
      ¬ ∃ path v, a.get? path = some v ∧ b.held? path = some .scope := by
  simp only [get?_eq_some_iff]
  constructor
  · intro hall hclash
    obtain ⟨s, hne⟩ := exists_merge_merge_ne hclash
    exact hne (hall s)
  · exact merge_merge_of_not_clash

end Scope

end Narrative
