import Narrative.Proofs.Variables.Holding

/-!
Agreement of scopes along some paths: the values found there need not be equal, but no
comparison tells them apart. Scopes that agree still do after the same overlay, however
different they are elsewhere.
-/

namespace Narrative

namespace Binary64

theorem eq_or_zero_of_equal {x y : Binary64} (h : x.equal y = true) :
    x = y ∨ ∃ a b p q hp hq, x = .finite a 0 p hp ∧ y = .finite b 0 q hq := by
  cases x with
  | nan => cases h
  | infinite a =>
      cases y with
      | nan => cases h
      | infinite b => exact .inl (of_decide_eq_true h)
      | finite b n q hq => exact .inl (of_decide_eq_true h)
  | finite a m p hp =>
      cases y with
      | nan => cases h
      | infinite b =>
          cases m with
          | zero => exact .inl (of_decide_eq_true h)
          | succ m => exact .inl (of_decide_eq_true h)
      | finite b n q hq =>
          rcases m with _ | m <;> rcases n with _ | n
          · exact .inr ⟨a, b, p, q, hp, hq, rfl, rfl⟩
          all_goals exact .inl (of_decide_eq_true h)

theorem equal_of_equal {x y : Binary64} (h : x.equal y = true) (z : Binary64) :
    x.equal z = y.equal z := by
  rcases eq_or_zero_of_equal h with rfl | ⟨a, b, p, q, hp, hq, rfl, rfl⟩
  · rfl
  · cases z with
    | nan => rfl
    | infinite negative => rfl
    | finite negative significand exponent canonical =>
        cases significand with
        | zero => rfl
        | succ n =>
            have hne (c : Bool) (r : Nat) (hr : CanonicalMagnitude 0 r) :
                Binary64.finite c 0 r hr ≠ .finite negative (n + 1) exponent canonical := by
              intro heq
              cases heq
            change decide (_ = _) = decide (_ = _)
            rw [decide_eq_false (hne a p hp), decide_eq_false (hne b q hq)]

end Binary64

namespace Value

theorem equal_of_equal {a b : Value} (h : a.equal b = true) (v : Value) :
    a.equal v = b.equal v := by
  cases a <;> cases b <;> simp only [equal, Bool.false_eq_true, beq_iff_eq] at h
  · rw [h]
  · cases v with
    | number z => exact Binary64.equal_of_equal h z
    | _ => rfl
  · rw [h]

/-- Whether two values have the same normalized form, be it as terms or as numbers. -/
def SameForm (a b : Value) : Prop :=
  a.normalized = b.normalized ∨ a.normalized.equal b.normalized = true

instance (a b : Value) : Decidable (a.SameForm b) :=
  inferInstanceAs (Decidable (_ ∨ _))

theorem SameForm.refl (a : Value) : a.SameForm a := .inl rfl

/-- Values of the same form answer every comparison alike. -/
theorem SameForm.looselyEqual_eq {a b : Value} (h : a.SameForm b) (v : Value) :
    a.looselyEqual v = b.looselyEqual v := by
  unfold looselyEqual
  rcases h with heq | hequal
  · rw [heq]
  · exact equal_of_equal hequal v.normalized

end Value

namespace Scope

variable {paths : List (List String)} {a b : Scope}

/-- Whether two scopes have values of the same form, or none, along the given paths. -/
def AgreeOn (paths : List (List String)) (a b : Scope) : Prop :=
  ∀ path ∈ paths, Option.Rel Value.SameForm (a.get? path) (b.get? path)

theorem AgreeOn.merge (h : AgreeOn paths a b) (incoming : Scope) :
    AgreeOn paths (a.merge incoming) (b.merge incoming) := by
  intro path hpath
  rw [get?_merge a, get?_merge b]
  cases incoming.held? path with
  | some holding =>
      cases holding with
      | value v => exact .some (.refl v)
      | scope => exact .none
  | none =>
      by_cases habove : incoming.ValueAbove path
      · simp only [if_pos habove]
        exact .none
      · simp only [if_neg habove]
        exact h path hpath

end Scope

end Narrative
