import Mathlib.Data.List.Forall2

/-!
Outcomes: results of steps that may end in a fault. A chain of steps is opened one
step at a time, and two questions are asked of it as a whole: what its fault can
be, and whether another chain has the same outcome. Neither question looks inside
the steps, so both go through any chain by its structure.
-/

namespace Narrative.Outcome

variable {ε α β α' β' : Type}

theorem bind_eq_ok_iff {x : Except ε α} {f : α → Except ε β} {b : β} :
    x >>= f = .ok b ↔ ∃ a, x = .ok a ∧ f a = .ok b := by
  cases x <;> simp [bind, Except.bind]

theorem bind_eq_error_iff {x : Except ε α} {f : α → Except ε β} {fault : ε} :
    x >>= f = .error fault ↔
      x = .error fault ∨ ∃ a, x = .ok a ∧ f a = .error fault := by
  cases x <;> simp [bind, Except.bind]

theorem map_eq_ok_iff {x : Except ε α} {f : α → β} {b : β} :
    x.map f = .ok b ↔ ∃ a, x = .ok a ∧ f a = b := by
  cases x <;> simp [Except.map]

theorem map_eq_error_iff {x : Except ε α} {f : α → β} {fault : ε} :
    x.map f = .error fault ↔ x = .error fault := by
  cases x <;> simp [Except.map]

/-- A row of steps succeeds if every step does, and then has the result of each in its place. -/
theorem mapM_eq_ok_iff {f : α → Except ε β} {items : List α} {results : List β} :
    items.mapM f = .ok results ↔ List.Forall₂ (fun a b => f a = .ok b) items results := by
  induction items generalizing results with
  | nil => cases results <;> simp [pure, Except.pure]
  | cons a items ih =>
      rw [List.mapM_cons, bind_eq_ok_iff, List.forall₂_cons_left_iff]
      constructor
      · rintro ⟨b, hb, hrest⟩
        obtain ⟨others, hothers, heq⟩ := bind_eq_ok_iff.mp hrest
        cases heq
        exact ⟨b, others, hb, ih.mp hothers, rfl⟩
      · rintro ⟨b, others, hb, hothers, rfl⟩
        exact ⟨b, hb, bind_eq_ok_iff.mpr ⟨others, ih.mpr hothers, rfl⟩⟩

/-- Each result is that of the item at the same place. -/
theorem getElem?_of_mapM {f : α → Except ε β} {items : List α} {results : List β}
    (h : items.mapM f = .ok results) {index : Nat} {b : β} (hb : results[index]? = some b) :
    ∃ a, items[index]? = some a ∧ f a = .ok b := by
  obtain ⟨hlength, hmade⟩ := List.forall₂_iff_get.mp (mapM_eq_ok_iff.mp h)
  obtain ⟨hindex, rfl⟩ := List.getElem?_eq_some_iff.mp hb
  have hitem : index < items.length := hlength ▸ hindex
  exact ⟨items[index], List.getElem?_eq_getElem hitem, hmade index hitem hindex⟩

theorem exists_ok_of_mapM {f : α → Except ε β} {items : List α} {results : List β}
    (h : items.mapM f = .ok results) {a : α} (hmem : a ∈ items) : ∃ b, f a = .ok b := by
  obtain ⟨hlength, hmade⟩ := List.forall₂_iff_get.mp (mapM_eq_ok_iff.mp h)
  obtain ⟨index, hindex, rfl⟩ := List.getElem_of_mem hmem
  exact ⟨results[index], hmade index hindex (hlength ▸ hindex)⟩

/-- The fault of a row of steps is that of its first step that has one. -/
theorem mapM_eq_error_iff {f : α → Except ε β} {items : List α} {fault : ε} :
    items.mapM f = .error fault ↔
      ∃ before a after, items = before ++ a :: after ∧
        (∀ earlier ∈ before, ∃ b, f earlier = .ok b) ∧ f a = .error fault := by
  induction items with
  | nil =>
      constructor
      · intro h
        cases h
      · rintro ⟨before, a, after, hitems, -⟩
        simp at hitems
  | cons first items ih =>
      rw [List.mapM_cons, bind_eq_error_iff]
      constructor
      · rintro (hfault | ⟨b, hb, hrest⟩)
        · exact ⟨[], first, items, rfl, by simp, hfault⟩
        · obtain hothers | ⟨others, -, hlast⟩ := bind_eq_error_iff.mp hrest
          · obtain ⟨before, a, after, rfl, hbefore, ha⟩ := ih.mp hothers
            refine ⟨first :: before, a, after, rfl, ?_, ha⟩
            intro earlier hmem
            rcases List.mem_cons.mp hmem with rfl | hmem
            · exact ⟨b, hb⟩
            · exact hbefore earlier hmem
          · cases hlast
      · rintro ⟨before, a, after, hitems, hbefore, ha⟩
        cases before with
        | nil =>
            obtain ⟨rfl, -⟩ := List.cons.inj hitems
            exact .inl ha
        | cons earlier before =>
            obtain ⟨rfl, hrest⟩ := List.cons.inj hitems
            obtain ⟨b, hb⟩ := hbefore first List.mem_cons_self
            have hothers : items.mapM f = .error fault :=
              ih.mpr ⟨before, a, after, hrest,
                fun other hmem => hbefore other (List.mem_cons_of_mem first hmem), ha⟩
            exact .inr ⟨b, hb, bind_eq_error_iff.mpr (.inl hothers)⟩

/-- Every fault that the outcome can be has the given property. -/
def Blames (blame : ε → Prop) (x : Except ε α) : Prop :=
  ∀ fault, x = .error fault → blame fault

section Blames

variable {blame : ε → Prop}

theorem blames_ok (a : α) : Blames blame (.ok a : Except ε α) := by
  intro fault h
  cases h

theorem blames_error {fault : ε} (h : blame fault) : Blames blame (.error fault : Except ε α) := by
  intro other heq
  cases heq
  exact h

theorem blames_bind {x : Except ε α} {f : α → Except ε β} (hx : Blames blame x)
    (hf : ∀ a, x = .ok a → Blames blame (f a)) : Blames blame (x >>= f) := by
  intro fault h
  rcases bind_eq_error_iff.mp h with hfault | ⟨a, ha, hfault⟩
  · exact hx fault hfault
  · exact hf a ha fault hfault

theorem blames_map {x : Except ε α} {f : α → β} (hx : Blames blame x) :
    Blames blame (x.map f) := by
  intro fault h
  exact hx fault (map_eq_error_iff.mp h)

theorem blames_mapM {f : α → Except ε β} {items : List α}
    (hf : ∀ a ∈ items, Blames blame (f a)) : Blames blame (items.mapM f) := by
  induction items with
  | nil => exact blames_ok []
  | cons a items ih =>
      rw [List.mapM_cons]
      apply blames_bind (hf a (by simp))
      intro b _
      apply blames_bind (ih fun other hmem => hf other (by simp [hmem]))
      intro bs _
      exact blames_ok (b :: bs)

end Blames

/-- Two outcomes that are the same fault, or results in the given relation. -/
def Same (R : α → α' → Prop) : Except ε α → Except ε α' → Prop
  | .ok a, .ok a' => R a a'
  | .error fault, .error fault' => fault = fault'
  | _, _ => False

section Same

variable {R : α → α' → Prop} {S : β → β' → Prop}

theorem same_rfl {x : Except ε α} : Same Eq x x := by
  cases x <;> rfl

theorem Same.of_ok {x : Except ε α} {x' : Except ε α'} {a : α} {a' : α'} (h : Same R x x')
    (hx : x = .ok a) (hx' : x' = .ok a') : R a a' := by
  rw [hx, hx'] at h
  exact h

theorem Same.exists_ok {x : Except ε α} {x' : Except ε α'} {a : α} (h : Same R x x')
    (hx : x = .ok a) : ∃ a', x' = .ok a' ∧ R a a' := by
  cases x' with
  | error fault =>
      rw [hx] at h
      exact h.elim
  | ok a' => exact ⟨a', rfl, h.of_ok hx rfl⟩

theorem Same.mono {x : Except ε α} {x' : Except ε α'} {S : α → α' → Prop} (h : Same R x x')
    (hR : ∀ a a', x = .ok a → x' = .ok a' → R a a' → S a a') : Same S x x' := by
  cases x with
  | error fault =>
      cases x' with
      | error fault' => exact h
      | ok a' => exact h.elim
  | ok a =>
      cases x' with
      | error fault' => exact h.elim
      | ok a' => exact hR a a' rfl rfl h

theorem same_bind {x : Except ε α} {x' : Except ε α'} {f : α → Except ε β}
    {f' : α' → Except ε β'} (hx : Same R x x')
    (hf : ∀ a a', x = .ok a → x' = .ok a' → R a a' → Same S (f a) (f' a')) :
    Same S (x >>= f) (x' >>= f') := by
  cases x with
  | error fault =>
      cases x' with
      | error fault' => exact hx
      | ok a' => exact hx.elim
  | ok a =>
      cases x' with
      | error fault' => exact hx.elim
      | ok a' => exact hf a a' rfl rfl hx

/-- Chains with the same first step go on from the same result. -/
theorem same_bind_of_eq {x : Except ε α} {f : α → Except ε β} {f' : α → Except ε β'}
    (hf : ∀ a, x = .ok a → Same S (f a) (f' a)) : Same S (x >>= f) (x >>= f') := by
  apply same_bind same_rfl
  rintro a _ ha - rfl
  exact hf a ha

theorem same_map {x : Except ε α} {x' : Except ε α'} {f : α → β} {f' : α' → β'}
    (hx : Same R x x') (hf : ∀ a a', R a a' → S (f a) (f' a')) :
    Same S (x.map f) (x'.map f') := by
  cases x <;> cases x' <;> simp_all [Same, Except.map]

end Same

/-- Two outcomes that are the same fault, or results that a view does not tell apart. -/
abbrev SameBy {γ : Type} (view : α → γ) : Except ε α → Except ε α → Prop :=
  Same fun a a' => view a = view a'

section SameBy

variable {γ δ : Type} {view : α → γ}

/-- Items that a view does not tell apart, one by one, give results that another does not. -/
theorem sameBy_mapM {result : β → δ} {f f' : α → Except ε β} {items items' : List α}
    (hitems : items.map view = items'.map view)
    (hf : ∀ a a', view a = view a' → SameBy result (f a) (f' a')) :
    SameBy (List.map result) (items.mapM f) (items'.mapM f') := by
  induction items generalizing items' with
  | nil =>
      cases items' with
      | nil => rfl
      | cons a' items' => cases hitems
  | cons a items ih =>
      cases items' with
      | nil => cases hitems
      | cons a' items' =>
          obtain ⟨ha, hrest⟩ := List.cons.inj hitems
          rw [List.mapM_cons, List.mapM_cons]
          apply same_bind (hf a a' ha)
          intro b b' _ _ hb
          apply same_bind (ih hrest)
          intro bs bs' _ _ hbs
          change result b :: bs.map result = result b' :: bs'.map result
          rw [hb, hbs]

theorem sameBy_mapM_of_forall {result : β → δ} {f f' : α → Except ε β}
    (hf : ∀ a, SameBy result (f a) (f' a)) (items : List α) :
    SameBy (List.map result) (items.mapM f) (items.mapM f') := by
  apply sameBy_mapM (congrArg (List.map id) rfl)
  rintro a _ rfl
  exact hf a

end SameBy

end Narrative.Outcome
