import Narrative.Proofs.Graph.Lookup
import Narrative.Proofs.Outcome
import Narrative.Proofs.Pointwise
import Narrative.Session.Choices

/-!
The choices of a node and its edges. Each choice leads over one edge, and the choices stand in the
order of these edges, so that everything said of an edge of a node can be said of a choice.
-/

namespace Narrative.Graph

variable {g : Graph} {n : Node} {store : Store} {index : Nat} {c : Choice}

/-- The edges that the choices of a node lead over: all of them, or for a condition those of its
first two output pins. -/
def offeredEdges (g : Graph) (n : Node) : List Edge :=
  if g.kindOf n = .condition then (n.outputPins.take 2).flatMap Pin.connections else n.edges

theorem map_fst_branchEdges (n : Node) :
    n.branchEdges.map Prod.fst = (n.outputPins.take 2).flatMap Pin.connections := by
  unfold Node.branchEdges
  split <;> simp_all [Function.comp_def]

theorem edgeChoice_eq_ok {edge : Edge} (h : g.edgeChoice store n edge index = .ok c) :
    c.index = index ∧ g.resolve n edge = .ok c.target ∧ c.guardText = c.target.guardText ∧
      admits store c.target = .ok c.enabled := by
  obtain ⟨target, htarget, hrest⟩ := Outcome.bind_eq_ok_iff.mp h
  obtain ⟨enabled, hadmits, hmade⟩ := Outcome.bind_eq_ok_iff.mp hrest
  cases hmade
  exact ⟨rfl, htarget, rfl, hadmits⟩

theorem branchChoice_eq_ok {line : String} {holds : Bool} {edge : Edge × Bool}
    (h : g.branchChoice n line holds edge index = .ok c) :
    c.index = index ∧ g.resolve n edge.1 = .ok c.target ∧ c.enabled = (holds == edge.2) := by
  obtain ⟨target, htarget, hmade⟩ := Outcome.bind_eq_ok_iff.mp h
  cases hmade
  exact ⟨rfl, htarget, rfl⟩

/-- Choices that are made of items one after another, each with its place, keep the items' order. -/
theorem forall₂_of_mapM_zipIdx {α : Type} {items : List α} {R : α → Choice → Prop}
    {f : α × Nat → Except Fault Choice} {choices : List Choice}
    (h : items.zipIdx.mapM f = .ok choices)
    (hf : ∀ a index c, f (a, index) = .ok c → c.index = index ∧ R a c) :
    (∀ (index : Nat) (c : Choice), choices[index]? = some c → c.index = index) ∧
      List.Forall₂ R items choices := by
  have hitems := Outcome.mapM_eq_ok_iff.mp h
  constructor
  · intro index c hc
    obtain ⟨⟨a, place⟩, hplace, hmade⟩ := Outcome.getElem?_of_mapM h hc
    rw [List.getElem?_zipIdx, Option.map_eq_some_iff] at hplace
    obtain ⟨_, -, heq⟩ := hplace
    cases heq
    rw [(hf a _ c hmade).1, Nat.zero_add]
  · rw [← List.zipIdx_map_fst 0 items, List.forall₂_map_left_iff]
    exact hitems.imp fun item c hmade => (hf item.1 item.2 c hmade).2

/-- The choices of a node lead over its offered edges, one over each, in their order. -/
theorem offeredEdges_of_choices {choices : List Choice} (h : g.choices store n = .ok choices) :
    (∀ (index : Nat) (c : Choice), choices[index]? = some c → c.index = index) ∧
      List.Forall₂ (fun edge c => g.resolve n edge = .ok c.target) (g.offeredEdges n) choices := by
  unfold Graph.choices at h
  unfold offeredEdges
  split at h
  · rename_i hkind
    obtain ⟨holds, -, hmade⟩ := Outcome.bind_eq_ok_iff.mp h
    rw [if_pos hkind, ← map_fst_branchEdges, List.forall₂_map_left_iff]
    refine forall₂_of_mapM_zipIdx hmade fun edge index c hmade => ?_
    obtain ⟨hindex, htarget, -⟩ := branchChoice_eq_ok hmade
    exact ⟨hindex, htarget⟩
  · rename_i hkind
    rw [if_neg hkind]
    refine forall₂_of_mapM_zipIdx h fun edge index c hmade => ?_
    obtain ⟨hindex, htarget, -⟩ := edgeChoice_eq_ok hmade
    exact ⟨hindex, htarget⟩

theorem exists_edge_of_mem_choices {choices : List Choice} (h : g.choices store n = .ok choices)
    (hmem : c ∈ choices) : ∃ edge ∈ g.offeredEdges n, g.resolve n edge = .ok c.target :=
  exists_of_forall₂_of_mem (offeredEdges_of_choices h).2 hmem

theorem holds_of_mem_choices {choices : List Choice} (h : g.choices store n = .ok choices)
    (hmem : c ∈ choices) : g.Holds c.target := by
  obtain ⟨edge, -, htarget⟩ := exists_edge_of_mem_choices h hmem
  exact holds_of_resolve htarget

end Narrative.Graph
