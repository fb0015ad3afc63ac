import Mathlib.Data.List.Perm.Subperm
import Narrative.Proofs.Graph.Containment

/-!
Lineages. The nodes around a node are found by following parents, one step after another.
Where no node lies around itself they are all different, so there are fewer of them than nodes
in the document, and as many steps as that find them all.
-/

namespace Narrative.Graph

/-- The nodes around a node, innermost first, found by so many steps upwards. -/
def lineage (g : Graph) : Nat → Node → List Node
  | 0, _ => []
  | steps + 1, n =>
    match g.parent? n.id with
    | none => []
    | some parent => parent :: lineage g steps parent

variable {document : Document} {g : Graph} {n outer parent : Node} {steps : Nat}

theorem lineage_succ_of_some (h : g.parent? n.id = some parent) (steps : Nat) :
    g.lineage (steps + 1) n = parent :: g.lineage steps parent := by
  simp only [lineage, h]

theorem lineage_succ_of_none (h : g.parent? n.id = none) (steps : Nat) :
    g.lineage (steps + 1) n = [] := by
  simp only [lineage, h]

theorem length_lineage_le (g : Graph) (steps : Nat) (n : Node) :
    (g.lineage steps n).length ≤ steps := by
  induction steps generalizing n with
  | zero => exact Nat.le_refl 0
  | succ steps ih =>
      cases hparent : g.parent? n.id with
      | none =>
          rw [lineage_succ_of_none hparent]
          exact Nat.zero_le _
      | some parent =>
          rw [lineage_succ_of_some hparent]
          exact Nat.succ_le_succ (ih parent)

theorem around_of_mem_lineage (h : outer ∈ g.lineage steps n) : g.Around outer n := by
  induction steps generalizing n with
  | zero => cases h
  | succ steps ih =>
      cases hparent : g.parent? n.id with
      | none =>
          rw [lineage_succ_of_none hparent] at h
          cases h
      | some parent =>
          rw [lineage_succ_of_some hparent] at h
          have hinside := around_of_parent? hparent
          rcases List.mem_cons.mp h with rfl | h
          · exact hinside
          · exact (ih h).trans hinside

/-- Each node of a lineage lies around those before it. -/
theorem pairwise_lineage (g : Graph) (steps : Nat) (n : Node) :
    (n :: g.lineage steps n).Pairwise fun inner outer => g.Around outer inner := by
  induction steps generalizing n with
  | zero => exact List.pairwise_singleton _ n
  | succ steps ih =>
      cases hparent : g.parent? n.id with
      | none =>
          rw [lineage_succ_of_none hparent]
          exact List.pairwise_singleton _ n
      | some parent =>
          refine List.pairwise_cons.mpr ⟨fun outer => around_of_mem_lineage, ?_⟩
          rw [lineage_succ_of_some hparent]
          exact ih parent

section Acyclic

variable (hacyclic : ∀ n, ¬g.Around n n)

include hacyclic

theorem nodup_lineage (steps : Nat) (n : Node) : (n :: g.lineage steps n).Nodup := by
  refine (pairwise_lineage g steps n).imp ?_
  rintro inner outer haround rfl
  exact hacyclic _ haround

/-- A node has fewer nodes around it than there are nodes: it is none of them itself. -/
theorem length_lineage_lt (hg : ofDocument document = .ok g) (hn : g.Holds n) (steps : Nat) :
    (g.lineage steps n).length < g.nodeCount := by
  have hsubset : n :: g.lineage steps n ⊆ document.nodes := by
    intro m hmem
    rcases List.mem_cons.mp hmem with rfl | hmem
    · exact (holds_iff hg).mp hn
    · exact (holds_iff hg).mp (around_of_mem_lineage hmem).holds
  have hlength := (List.subperm_of_subset (nodup_lineage hacyclic steps n) hsubset).length_le
  rw [nodeCount_eq hg]
  exact hlength

end Acyclic

/-- A lineage that is complete does not grow with a further step. -/
theorem lineage_succ_of_length_le (h : (g.lineage (steps + 1) n).length ≤ steps) :
    g.lineage (steps + 1) n = g.lineage steps n := by
  induction steps generalizing n with
  | zero => exact List.length_eq_zero_iff.mp (Nat.le_zero.mp h)
  | succ steps ih =>
      cases hparent : g.parent? n.id with
      | none => rw [lineage_succ_of_none hparent, lineage_succ_of_none hparent]
      | some parent =>
          rw [lineage_succ_of_some hparent] at h ⊢
          rw [lineage_succ_of_some hparent, ih (Nat.le_of_succ_le_succ h)]

/-- The lineage of a node is that of its parent, after the parent itself: a step less is
enough for a node that lies further out. -/
theorem lineage_nodeCount (hg : ofDocument document = .ok g) (hacyclic : ∀ n, ¬g.Around n n)
    (hparent : g.parent? n.id = some parent) :
    g.lineage g.nodeCount n = parent :: g.lineage g.nodeCount parent := by
  have hshort (steps : Nat) : (g.lineage steps parent).length < g.nodeCount :=
    length_lineage_lt hacyclic hg (holds_of_parent? hparent) steps
  obtain ⟨count, hcount⟩ := Nat.exists_eq_add_one_of_ne_zero (Nat.ne_zero_of_lt (hshort 0))
  rw [hcount] at hshort ⊢
  rw [lineage_succ_of_some hparent,
    lineage_succ_of_length_le (Nat.le_of_lt_succ (hshort (count + 1)))]

/-- As many steps as there are nodes find every node around a node. -/
theorem mem_lineage_iff_around (hg : ofDocument document = .ok g)
    (hacyclic : ∀ n, ¬g.Around n n) :
    outer ∈ g.lineage g.nodeCount n ↔ g.Around outer n := by
  refine ⟨around_of_mem_lineage, fun haround => ?_⟩
  -- The induction climbs from the node: what its parent's lineage has, its own has as well.
  induction haround using Relation.TransGen.head_induction_on with
  | single hparent =>
      rw [lineage_nodeCount hg hacyclic hparent]
      exact List.mem_cons_self
  | head hparent _ ih =>
      rw [lineage_nodeCount hg hacyclic hparent]
      exact List.mem_cons_of_mem _ ih

/-- More steps than there are nodes find no more. -/
theorem lineage_of_nodeCount_le (hg : ofDocument document = .ok g)
    (hacyclic : ∀ n, ¬g.Around n n) (hn : g.Holds n) (h : g.nodeCount ≤ steps) :
    g.lineage steps n = g.lineage g.nodeCount n := by
  induction h with
  | refl => rfl
  | @step steps hsteps ih =>
      have hshort := length_lineage_lt hacyclic hg hn (steps + 1)
      rw [lineage_succ_of_length_le (Nat.le_trans (Nat.le_of_lt hshort) hsteps), ih]

end Narrative.Graph
