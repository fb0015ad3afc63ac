import Narrative.Document.Basic
import Narrative.Proofs.Pointwise
import Narrative.Session.Choices

/-!
Documents without their presentation. Names, texts, speakers, colours, stage directions and labels
are there to be read. What is left of a node without them says what the node is, where it leads
and who is let in, and nodes of which the same is left have the same guard, the same line as a
condition, and edges to the same targets at the same places.
-/

namespace Narrative

def Edge.plain (e : Edge) : Edge :=
  { target := e.target }

/-- An edge without its label, and still with whether it is the first pin's. -/
def plainBranch (branch : Edge × Bool) : Edge × Bool :=
  (branch.1.plain, branch.2)

/-- The node without what is only read. Of the input pins the guard is left, and of the output
pins their edges. -/
def Node.plain (n : Node) : Node where
  id := n.id
  typeName := n.typeName
  expression := n.expression
  parent := n.parent
  target := n.target
  inputPins := n.inputPins.head?.toList.map fun pin => { text := pin.text }
  outputPins := n.outputPins.map fun pin => { connections := pin.connections.map Edge.plain }

def Package.plain (package : Package) : Package where
  name := ""
  nodes := package.nodes.map Node.plain

def Document.plain (d : Document) : Document :=
  { d with packages := d.packages.map Package.plain }

theorem Document.nodes_plain (d : Document) : d.plain.nodes = d.nodes.map Node.plain := by
  simp only [Document.plain, Document.nodes, List.flatMap_map, List.map_flatMap]
  rfl

namespace Node

@[simp] theorem id_plain (n : Node) : n.plain.id = n.id := rfl

@[simp] theorem guardText_plain (n : Node) : n.plain.guardText = n.guardText := by
  unfold guardText plain
  rcases n.inputPins with _ | ⟨⟨_ | guard, connections⟩, others⟩ <;> rfl

theorem edges_plain (n : Node) : n.plain.edges = n.edges.map Edge.plain := by
  simp only [plain, edges, List.flatMap_map, List.map_flatMap]

@[simp] theorem edgeCount_plain (n : Node) : n.plain.edgeCount = n.edgeCount := by
  rw [edgeCount, edges_plain, List.length_map, edgeCount]

theorem branchEdges_plain (n : Node) :
    n.plain.branchEdges = n.branchEdges.map plainBranch := by
  unfold branchEdges plain
  rcases n.outputPins with _ | ⟨first, _ | ⟨second, others⟩⟩
  · rfl
  · simp only [List.map_cons, List.map_map, List.map_nil]
    rfl
  · simp only [List.map_cons, List.map_append, List.map_map]
    rfl

/-- The edge that is taken from the output pin at some place. -/
theorem pinEdge_plain (n : Node) (place : Nat) :
    (n.plain.outputPins[place]?.bind fun pin => pin.connections.head?) =
      (n.outputPins[place]?.bind fun pin => pin.connections.head?).map Edge.plain := by
  simp only [plain, List.getElem?_map]
  cases n.outputPins[place]? <;> simp

section Same

variable {n m : Node} (h : n.plain = m.plain)

include h

theorem id_eq_of_plain_eq : n.id = m.id := by
  rw [← id_plain, h, id_plain]

theorem typeName_eq_of_plain_eq : n.typeName = m.typeName := by
  change n.plain.typeName = m.plain.typeName
  rw [h]

theorem expression_eq_of_plain_eq : n.expression = m.expression := by
  change n.plain.expression = m.plain.expression
  rw [h]

theorem parent_eq_of_plain_eq : n.parent = m.parent := by
  change n.plain.parent = m.plain.parent
  rw [h]

theorem target_eq_of_plain_eq : n.target = m.target := by
  change n.plain.target = m.plain.target
  rw [h]

theorem guardText_eq_of_plain_eq : n.guardText = m.guardText := by
  rw [← guardText_plain, h, guardText_plain]

theorem edgeCount_eq_of_plain_eq : n.edgeCount = m.edgeCount := by
  rw [← edgeCount_plain, h, edgeCount_plain]

theorem conditionLine_eq_of_plain_eq : n.conditionLine = m.conditionLine := by
  change n.plain.conditionLine = m.plain.conditionLine
  rw [h]

theorem conditionHolds_eq_of_plain_eq (store : Store) :
    n.conditionHolds store = m.conditionHolds store := by
  change n.plain.conditionHolds store = m.plain.conditionHolds store
  rw [h]

theorem forall₂_edges_of_plain_eq :
    List.Forall₂ (fun e e' => e.plain = e'.plain) n.edges m.edges := by
  apply forall₂_of_map_eq
  rw [← edges_plain, h, edges_plain]

theorem branchEdges_eq_of_plain_eq :
    n.branchEdges.map plainBranch = m.branchEdges.map plainBranch := by
  rw [← branchEdges_plain, h, branchEdges_plain]

theorem rel_pinEdge_of_plain_eq (place : Nat) :
    Option.Rel (fun e e' => e.plain = e'.plain)
      (n.outputPins[place]?.bind fun pin => pin.connections.head?)
      (m.outputPins[place]?.bind fun pin => pin.connections.head?) := by
  apply rel_of_map_eq
  rw [← pinEdge_plain, h, pinEdge_plain]

end Same

/-- Nodes of which the same is left and that are marked at the same places: the marked ones are at
the same places. -/
theorem map_plain_filter_mentions {nodes others : List Node} {token : String}
    (h : nodes.map Node.plain = others.map Node.plain)
    (hmarks : nodes.map (·.mentions token) = others.map (·.mentions token)) :
    (nodes.filter (·.mentions token)).map Node.plain =
      (others.filter (·.mentions token)).map Node.plain := by
  induction nodes generalizing others with
  | nil =>
      cases others with
      | nil => rfl
      | cons m others => cases h
  | cons n nodes ih =>
      cases others with
      | nil => cases h
      | cons m others =>
          obtain ⟨hfirst, hrest⟩ := List.cons.inj h
          obtain ⟨hmark, hmarksRest⟩ := List.cons.inj hmarks
          dsimp only at hmark
          rw [List.filter_cons, List.filter_cons, hmark]
          split
          · rw [List.map_cons, List.map_cons, hfirst, ih hrest hmarksRest]
          · exact ih hrest hmarksRest

end Node

end Narrative
