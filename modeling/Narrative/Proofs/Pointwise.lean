import Mathlib.Data.List.Forall2

/-!
Lists and options that go together item by item. What a view does not tell apart in a list or an
option, it does not tell apart in the items, and searches that find what goes together for every
item find what goes together.
-/

namespace Narrative

variable {α β β' γ : Type}

theorem forall₂_of_map_eq {view : α → γ} {items items' : List α}
    (h : items.map view = items'.map view) :
    List.Forall₂ (fun a a' => view a = view a') items items' := by
  rwa [← List.forall₂_eq_eq_eq, List.forall₂_map_left_iff, List.forall₂_map_right_iff] at h

theorem exists_of_forall₂_of_mem {R : β → β' → Prop} {items : List β} {items' : List β'}
    (h : List.Forall₂ R items items') {b' : β'} (hmem : b' ∈ items') : ∃ b ∈ items, R b b' := by
  induction h with
  | nil => cases hmem
  | cons hfirst _ ih =>
      rcases List.mem_cons.mp hmem with rfl | hmem
      · exact ⟨_, List.mem_cons_self, hfirst⟩
      · obtain ⟨b, hb, hrel⟩ := ih hmem
        exact ⟨b, List.mem_cons_of_mem _ hb, hrel⟩

/-- What goes together with two lists, one after the other, falls into two parts. -/
theorem exists_append_of_forall₂ {R : β → β' → Prop} {items others : List β} {items' : List β'}
    (h : List.Forall₂ R (items ++ others) items') :
    ∃ first second, items' = first ++ second ∧ List.Forall₂ R items first ∧
      List.Forall₂ R others second := by
  refine ⟨items'.take items.length, items'.drop items.length,
    (List.take_append_drop _ items').symm, ?_, ?_⟩
  · exact (List.forall₂_take_append items' items others h.flip).flip
  · exact (List.forall₂_drop_append items' items others h.flip).flip

theorem rel_of_map_eq {view : α → γ} {x x' : Option α} (h : x.map view = x'.map view) :
    Option.Rel (fun a a' => view a = view a') x x' := by
  cases x with
  | none =>
      cases x' with
      | none => exact .none
      | some a' => cases h
  | some a =>
      cases x' with
      | none => cases h
      | some a' => exact .some (Option.some.inj h)

section Rel

variable {R : β → β' → Prop}

theorem rel_findSome? {f : α → Option β} {f' : α → Option β'}
    (hf : ∀ a, Option.Rel R (f a) (f' a)) (items : List α) :
    Option.Rel R (items.findSome? f) (items.findSome? f') := by
  induction items with
  | nil => exact .none
  | cons a items ih =>
      have ha := hf a
      rw [List.findSome?_cons, List.findSome?_cons]
      generalize f a = found, f' a = found' at ha ⊢
      cases ha with
      | none => exact ih
      | some ha => exact .some ha

theorem rel_bind {S : α → α → Prop} {x x' : Option α} {f : α → Option β} {f' : α → Option β'}
    (hx : Option.Rel S x x') (hf : ∀ a a', S a a' → Option.Rel R (f a) (f' a')) :
    Option.Rel R (x.bind f) (x'.bind f') := by
  cases hx with
  | none => exact .none
  | some ha => exact hf _ _ ha

end Rel

end Narrative
