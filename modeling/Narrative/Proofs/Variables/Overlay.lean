import Narrative.Variables.Store

/-!
What an overlay does to one name: what comes in is bound to it, and a scope that comes in is
merged into the scope that was there. What the other names are bound to never matters.
-/

namespace Narrative

namespace Bindings

variable {name : String} {base incoming rest : Bindings}

theorem find?_eq_none_of_above (habove : rest.Above name) (hrest : rest.Sorted) :
    rest.find? name = none := by
  induction rest with
  | nil => rfl
  | value n v rest ih =>
      have hne : n ≠ name := (String.ne_of_lt habove).symm
      have htail : rest.find? name = none := ih (hrest.1.trans habove) hrest.2
      simp [find?, hne, htail]
  | scope n inner rest _ ih =>
      have hne : n ≠ name := (String.ne_of_lt habove).symm
      have htail : rest.find? name = none := ih (hrest.2.1.trans habove) hrest.2.2
      simp [find?, hne, htail]

/-- A scope that is laid over what a name is bound to: merged into a scope, and in place
of anything else. -/
def overlaid (inner : Bindings) : Option Entry → Entry
  | some (.scope existing) => .scope (existing.merge inner)
  | _ => .scope inner

theorem merge_scope (base inner rest : Bindings) (name : String) :
    base.merge (.scope name inner rest) =
      (base.put name (overlaid inner (base.find? name))).merge rest := by
  simp only [merge]
  cases base.find? name with
  | none => rfl
  | some entry => cases entry <;> rfl

/-- After an overlay a name is bound to what came in, if anything did. -/
theorem find?_merge (h : incoming.Sorted) :
    (base.merge incoming).find? name =
      match incoming.find? name with
      | none => base.find? name
      | some (.value v) => some (.value v)
      | some (.scope inner) => some (overlaid inner (base.find? name)) := by
  induction incoming generalizing base with
  | nil => rfl
  | value n v rest ih =>
      rw [merge, ih h.2, find?_put]
      by_cases hname : n = name
      · subst hname
        have hnone := find?_eq_none_of_above h.1 h.2
        simp [find?, hnone]
      · simp [find?, hname]
  | scope n inner rest _ ih =>
      rw [merge_scope, ih h.2.2, find?_put]
      by_cases hname : n = name
      · subst hname
        have hnone := find?_eq_none_of_above h.2.1 h.2.2
        simp [find?, hnone]
      · simp [find?, hname]

theorem get?_cons (name next : String) (path : List String) (b : Bindings) :
    b.get? (name :: next :: path) =
      match b.find? name with
      | some (.scope inner) => inner.get? (next :: path)
      | _ => none := rfl

end Bindings

end Narrative
