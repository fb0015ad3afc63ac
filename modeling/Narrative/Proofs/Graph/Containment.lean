import Mathlib.Logic.Relation
import Narrative.Proofs.Graph.Outline

/-!
Which nodes lie around which. A node lies around those that it is a parent of, and around
those that they lie around. The outline from which containers are entered and the parents
by which they are found again tell the same story where no outline id occurs twice.
-/

namespace Narrative.Graph

/-- Whether one node lies around another one: it is its parent, or the parent of a node
around it. -/
def Around (g : Graph) (outer inner : Node) : Prop :=
  Relation.TransGen (fun inner outer => g.parent? inner.id = some outer) inner outer

variable {document : Document} {g : Graph} {n inner outer : Node}

theorem around_of_parent? (h : g.parent? inner.id = some outer) : g.Around outer inner :=
  .single h

theorem Around.trans {middle : Node} (houter : g.Around outer middle)
    (hinner : g.Around middle inner) : g.Around outer inner :=
  Relation.TransGen.trans hinner houter

theorem Around.exists_child (h : g.Around outer inner) :
    ∃ child : Node, g.parent? child.id = some outer := by
  cases h with
  | single hparent => exact ⟨_, hparent⟩
  | tail _ hparent => exact ⟨_, hparent⟩

theorem Around.exists_parent (h : g.Around outer inner) :
    ∃ parent, g.parent? inner.id = some parent := by
  obtain ⟨parent, hparent, -⟩ := Relation.TransGen.head'_iff.mp h
  exact ⟨parent, hparent⟩

theorem Around.holds (h : g.Around outer inner) : g.Holds outer := by
  obtain ⟨child, hparent⟩ := h.exists_child
  exact holds_of_parent? hparent

/-- A parent is that of an outline entry with a child, or the one that a node refers to. -/
theorem parent?_cases (hg : ofDocument document = .ok g) {id : String}
    (h : g.parent? id = some outer) :
    (∃ entry ∈ document.outline.walk, entry.id = outer.id ∧ ∃ c ∈ entry.children, c.id = id) ∨
      ∃ n ∈ document.nodes, n.id = id ∧ n.parent = some outer.id := by
  rw [parent?_eq hg, Option.or_eq_some_iff] at h
  rcases h with h | ⟨-, h⟩
  · obtain ⟨entry, hentry, houter⟩ := Option.bind_eq_some_iff.mp h
    obtain ⟨hmem, hchild⟩ := Outline.mem_of_find?_child hentry
    exact .inl ⟨entry, hmem, ((node?_eq_some_iff hg).mp houter).2.symm, hchild⟩
  · obtain ⟨n, hn, hparent⟩ := Option.bind_eq_some_iff.mp h
    obtain ⟨parent, hfield, houter⟩ := Option.bind_eq_some_iff.mp hparent
    obtain ⟨hmem, hid⟩ := (node?_eq_some_iff hg).mp hn
    exact .inr ⟨n, hmem, hid, hfield.trans (by rw [((node?_eq_some_iff hg).mp houter).2])⟩

/-- Where every parent stands higher than its children, by whatever measure, no node lies around
itself. -/
theorem not_around_self_of_height (hg : ofDocument document = .ok g) (height : String → Nat)
    (houtline : ∀ entry ∈ document.outline.walk, ∀ c ∈ entry.children,
      height c.id < height entry.id)
    (hnodes : ∀ n ∈ document.nodes, ∀ id ∈ n.parent, height n.id < height id) (n : Node) :
    ¬g.Around n n := by
  have hparent {inner outer : Node} (h : g.parent? inner.id = some outer) :
      height inner.id < height outer.id := by
    rcases parent?_cases hg h with ⟨entry, hentry, hid, c, hc, hchild⟩ | ⟨m, hm, hid, hfield⟩
    · rw [← hid, ← hchild]
      exact houtline entry hentry c hc
    · rw [← hid]
      exact hnodes m hm outer.id hfield
  have hhigher {inner outer : Node} (h : g.Around outer inner) :
      height inner.id < height outer.id := by
    induction h with
    | single hlast => exact hparent hlast
    | tail _ hlast ih => exact Nat.lt_trans ih (hparent hlast)
  exact fun h => Nat.lt_irrefl _ (hhigher h)

/-- Where no outline id occurs twice, a node is the parent of its first child. -/
theorem parent?_of_firstChild? (hg : ofDocument document = .ok g)
    (hids : (document.outline.walk.map Outline.id).Nodup) (hn : g.Holds n) {child : Node}
    (h : g.firstChild? n = some child) : g.parent? child.id = some n := by
  obtain ⟨entry, hentry, hid, c, hc, hchild⟩ := exists_entry_of_firstChild? hg h
  have hcid : child.id = c.id := ((node?_eq_some_iff hg).mp hchild).2
  rw [parent?_eq hg, hcid, Outline.find?_child_eq_some hids hentry hc, Option.bind_some, hid,
    node?_id hg hn]
  rfl

end Narrative.Graph
