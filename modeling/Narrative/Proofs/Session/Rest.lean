import Mathlib.Logic.Relation
import Narrative.Proofs.Graph.Lookup
import Narrative.Proofs.Outcome
import Narrative.Session.Settle

/-!
Where a reader comes to rest. Settling is a walk of automatic hops that ends at the
first node with something else to say: a place to rest, a fault, or one hop too many.
Every node on the way is a node of the graph, and the kind of the last one decides
whether it is shown or offers its edges.
-/

namespace Narrative

theorem Node.one_lt_edgeCount {n : Node} (hnone : n.edges ≠ []) (hone : ∀ edge, n.edges ≠ [edge]) :
    1 < n.edgeCount := by
  unfold edgeCount
  cases hedges : n.edges with
  | nil => exact absurd hedges hnone
  | cons edge edges =>
      cases edges with
      | nil => exact absurd hedges (hone edge)
      | cons other edges => simp

/-- So many steps, one after another. -/
inductive Steps {α : Type} (R : α → α → Prop) : Nat → α → α → Prop where
  | none (a : α) : Steps R 0 a a
  | first {a b c : α} {count : Nat} (step : R a b) (rest : Steps R count b c) :
      Steps R (count + 1) a c

theorem Steps.reflTransGen {α : Type} {R : α → α → Prop} {a b : α} {count : Nat}
    (h : Steps R count a b) : Relation.ReflTransGen R a b := by
  induction h with
  | none a => exact .refl
  | first step _ ih => exact ih.head step

namespace Graph

variable {g : Graph} {store : Store}

def HopsTo (g : Graph) (store : Store) (here there : List Node × Node) : Prop :=
  g.hop store here.1 here.2 = .ok (.on there.2 there.1)

/-- Any number of automatic hops. -/
def LeadsTo (g : Graph) (store : Store) : List Node × Node → List Node × Node → Prop :=
  Relation.ReflTransGen (g.HopsTo store)

/-- Settling goes from hop to hop, as often as it may at the most, and ends as the last node
reached says, or with the budget. -/
theorem settleWithin_cases (g : Graph) (store : Store) (budget left : Nat)
    (containers : List Node) (n : Node) :
    ∃ hops here, hops ≤ left ∧ Steps (g.HopsTo store) hops (containers, n) here ∧
      ((∃ position after, g.hop store here.1 here.2 = .ok (.rest position after) ∧
          g.settleWithin store budget left containers n = .ok (position, after)) ∨
        (∃ fault, g.hop store here.1 here.2 = .error fault ∧
          g.settleWithin store budget left containers n = .error fault) ∨
        (hops = left ∧ ∃ there, g.HopsTo store here there ∧
          g.settleWithin store budget left containers n =
            .error (.stepBudgetExceeded here.2.id budget))) := by
  induction left generalizing containers n with
  | zero =>
      refine ⟨0, (containers, n), Nat.le_refl 0, .none _, ?_⟩
      cases hhop : g.hop store containers n with
      | error fault => exact .inr (.inl ⟨fault, rfl, by simp only [settleWithin, hhop]⟩)
      | ok hop =>
          cases hop with
          | rest position after =>
              exact .inl ⟨position, after, rfl, by simp only [settleWithin, hhop]⟩
          | on next after =>
              exact .inr (.inr ⟨rfl, (after, next), hhop, by simp only [settleWithin, hhop]⟩)
  | succ left ih =>
      cases hhop : g.hop store containers n with
      | error fault =>
          exact ⟨0, (containers, n), Nat.zero_le _, .none _,
            .inr (.inl ⟨fault, hhop, by simp only [settleWithin, hhop]⟩)⟩
      | ok hop =>
          cases hop with
          | rest position after =>
              exact ⟨0, (containers, n), Nat.zero_le _, .none _,
                .inl ⟨position, after, hhop, by simp only [settleWithin, hhop]⟩⟩
          | on next after =>
              obtain ⟨hops, here, hle, hwalk, hend⟩ := ih after next
              have hfirst : g.HopsTo store (containers, n) (after, next) := hhop
              refine ⟨hops + 1, here, Nat.succ_le_succ hle, .first hfirst hwalk, ?_⟩
              simpa only [settleWithin, hhop, Nat.add_right_cancel_iff] using hend

theorem holds_of_jumpTarget {n target : Node} (h : g.jumpTarget n = .ok target) :
    g.Holds target := by
  unfold jumpTarget at h
  split at h
  · rename_i id _
    split at h
    · rename_i node hnode
      cases h
      exact ⟨id, hnode⟩
    · cases h
  · split at h
    · exact holds_of_resolve h
    · cases h

theorem holds_of_branchTarget {n target : Node} (h : g.branchTarget store n = .ok target) :
    g.Holds target := by
  obtain ⟨holds, -, hbranch⟩ := Outcome.bind_eq_ok_iff.mp h
  split at hbranch
  · exact holds_of_resolve hbranch
  · cases hbranch

/-- What the edges of a node itself lead to, by their number. -/
theorem ownEdges_eq_ok {containers : List Node} {n : Node} {hop : Hop}
    (h : g.ownEdges containers n = .ok hop) :
    (n.edges = [] ∧ hop = .rest .ended containers) ∨
      (∃ edge target, n.edges = [edge] ∧ g.resolve n edge = .ok target ∧
        hop = .on target containers) ∨
      (1 < n.edgeCount ∧ hop = .rest (.offering n) containers) := by
  unfold ownEdges at h
  split at h
  · rename_i hedges
    cases h
    exact .inl ⟨hedges, rfl⟩
  · rename_i edge hedges
    obtain ⟨target, htarget, rfl⟩ := Outcome.map_eq_ok_iff.mp h
    exact .inr (.inl ⟨edge, target, hedges, htarget, rfl⟩)
  · rename_i hnone hone
    cases h
    exact .inr (.inr ⟨Node.one_lt_edgeCount hnone hone, rfl⟩)

/-- Where a reader can stand: at a shown node, or at one that offers its edges because
it is a hub or has several. -/
def Stands (g : Graph) : Position → Prop
  | .displaying n => g.Holds n ∧ (g.kindOf n).isDisplayed = true
  | .offering n => g.Holds n ∧
      (g.kindOf n = .hub ∨
        (1 < n.edgeCount ∧ (g.kindOf n = .dialogue ∨ g.kindOf n = .container)))
  | .ended => True

theorem holds_of_hop {containers after : List Node} {n next : Node}
    (h : g.hop store containers n = .ok (.on next after)) : g.Holds next := by
  unfold hop at h
  split at h
  · cases h
  · cases h
  · cases h
  · obtain ⟨target, htarget, heq⟩ := Outcome.map_eq_ok_iff.mp h
    cases heq
    exact holds_of_jumpTarget htarget
  · obtain ⟨target, htarget, heq⟩ := Outcome.map_eq_ok_iff.mp h
    cases heq
    exact holds_of_branchTarget htarget
  · have hown {containers : List Node}
        (h : g.ownEdges containers n = .ok (.on next after)) : g.Holds next := by
      rcases ownEdges_eq_ok h with ⟨-, heq⟩ | ⟨edge, target, -, htarget, heq⟩ | ⟨-, heq⟩
      · cases heq
      · cases heq
        exact holds_of_resolve htarget
      · cases heq
    split at h
    · exact hown h
    · split at h
      · rename_i child hchild
        cases h
        exact holds_of_firstChild? hchild
      · exact hown h
  · cases h

theorem stands_of_hop {containers after : List Node} {n : Node} {position : Position}
    (hn : g.Holds n) (h : g.hop store containers n = .ok (.rest position after)) :
    g.Stands position := by
  unfold hop at h
  split at h
  · rename_i hkind
    cases h
    exact ⟨hn, by rw [hkind]; rfl⟩
  · rename_i hkind
    cases h
    exact ⟨hn, by rw [hkind]; rfl⟩
  · rename_i hkind
    cases h
    exact ⟨hn, .inl hkind⟩
  · obtain ⟨target, -, heq⟩ := Outcome.map_eq_ok_iff.mp h
    cases heq
  · obtain ⟨target, -, heq⟩ := Outcome.map_eq_ok_iff.mp h
    cases heq
  · rename_i hkind
    have hown {containers : List Node}
        (h : g.ownEdges containers n = .ok (.rest position after)) : g.Stands position := by
      rcases ownEdges_eq_ok h with ⟨-, heq⟩ | ⟨edge, target, -, -, heq⟩ | ⟨hmany, heq⟩
      · cases heq
        trivial
      · cases heq
      · cases heq
        exact ⟨hn, .inr ⟨hmany, .inr hkind⟩⟩
    split at h
    · exact hown h
    · split at h
      · cases h
      · exact hown h
  · cases h

theorem holds_of_leadsTo {here there : List Node × Node} (h : g.LeadsTo store here there)
    (hhere : g.Holds here.2) : g.Holds there.2 := by
  induction h with
  | refl => exact hhere
  | tail _ hhop _ => exact holds_of_hop hhop

/-- Where a reader comes to rest is what a hop says at the end of a walk. -/
theorem exists_rest_of_settle {budget : Nat} {containers after : List Node} {n : Node}
    {position : Position} (h : g.settle store budget containers n = .ok (position, after)) :
    ∃ here, g.LeadsTo store (containers, n) here ∧
      g.hop store here.1 here.2 = .ok (.rest position after) := by
  obtain ⟨_, here, -, hwalk, hrest | hfault | hbudget⟩ :=
    settleWithin_cases g store budget budget containers n
  · obtain ⟨_, _, hhop, hsettle⟩ := hrest
    cases hsettle.symm.trans h
    exact ⟨here, hwalk.reflTransGen, hhop⟩
  · obtain ⟨_, _, hsettle⟩ := hfault
    cases hsettle.symm.trans h
  · obtain ⟨_, _, _, hsettle⟩ := hbudget
    cases hsettle.symm.trans h

theorem stands_of_settle {budget : Nat} {containers after : List Node} {n : Node}
    {position : Position} (hn : g.Holds n)
    (h : g.settle store budget containers n = .ok (position, after)) : g.Stands position := by
  obtain ⟨here, hwalk, hhop⟩ := exists_rest_of_settle h
  exact stands_of_hop (holds_of_leadsTo hwalk hn) hhop

end Graph

end Narrative
