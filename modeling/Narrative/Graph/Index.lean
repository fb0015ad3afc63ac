import Narrative.Document.Basic
import Narrative.Fault
import Std.Data.TreeMap

/-!
The index of a document: nodes by id, outline entries by id, and parents by
child. It is built in one pass over the nodes and one over the outline. Two
nodes of one id are a fault; of several outline entries, or several parents, the
first in the walk of the outline counts.
-/

namespace Narrative

structure Graph where
  document : Document
  nodeIndex : Std.TreeMap String Node
  /-- The first outline entry of an id. -/
  entryIndex : Std.TreeMap String Outline
  /-- The id of the first outline entry with a child of an id. -/
  parentIndex : Std.TreeMap String String

namespace Graph

/-- Nodes by id on top of those indexed so far; a second node of an id is a fault. -/
def indexNodes (index : Std.TreeMap String Node) :
    List Node → Except Fault (Std.TreeMap String Node)
  | [] => .ok index
  | node :: nodes =>
    if index.contains node.id then .error (.duplicateNodeId node.id)
    else indexNodes (index.insert node.id node) nodes

/-- Outline entries by id, the first one of each. -/
def indexEntries (entries : List Outline) : Std.TreeMap String Outline :=
  entries.foldl (fun index entry => index.insertIfNew entry.id entry) ∅

/-- Parents by child id, the first one of each. -/
def indexParents (entries : List Outline) : Std.TreeMap String String :=
  entries.foldl (fun index entry =>
    entry.children.foldl (fun index child => index.insertIfNew child.id entry.id) index) ∅

def ofDocument (document : Document) : Except Fault Graph := do
  let nodeIndex ← indexNodes ∅ document.nodes
  let entries := document.outline.walk
  return { document, nodeIndex, entryIndex := indexEntries entries,
           parentIndex := indexParents entries }

def node? (g : Graph) (id : String) : Option Node :=
  g.nodeIndex[id]?

def nodeCount (g : Graph) : Nat :=
  g.nodeIndex.size

/-- The first child of a node in the outline that is itself a node. -/
def firstChild? (g : Graph) (n : Node) : Option Node :=
  match g.entryIndex[n.id]? with
  | some entry => entry.children.findSome? fun child => g.node? child.id
  | none => none

/-- The node that contains another one: by the outline if its parent there is a
node, and otherwise by the node's own reference. -/
def parent? (g : Graph) (id : String) : Option Node :=
  match g.parentIndex[id]?.bind g.node? with
  | some parent => some parent
  | none => (g.node? id).bind fun n => n.parent.bind g.node?

def resolve (g : Graph) (source : Node) (edge : Edge) : Except Fault Node :=
  match g.node? edge.target with
  | some target => .ok target
  | none => .error (.danglingEdge source.id edge.target)

def successors (g : Graph) (n : Node) : Except Fault (List Node) :=
  n.edges.mapM (g.resolve n)

theorem resolve_eq_ok_iff {g : Graph} {source target : Node} {edge : Edge} :
    g.resolve source edge = .ok target ↔ g.node? edge.target = some target := by
  unfold resolve
  split <;> simp_all

theorem ofDocument_eq_ok {document : Document} {g : Graph} (h : ofDocument document = .ok g) :
    ∃ index, indexNodes ∅ document.nodes = .ok index ∧
      g = { document, nodeIndex := index, entryIndex := indexEntries document.outline.walk,
            parentIndex := indexParents document.outline.walk } := by
  unfold ofDocument at h
  cases hindex : indexNodes ∅ document.nodes with
  | error fault => simp [hindex, bind, Except.bind] at h
  | ok index =>
      simp only [hindex, bind, Except.bind, pure, Except.pure, Except.ok.injEq] at h
      exact ⟨index, rfl, h.symm⟩

theorem document_of_ofDocument {document : Document} {g : Graph}
    (h : ofDocument document = .ok g) : g.document = document := by
  obtain ⟨index, -, rfl⟩ := ofDocument_eq_ok h
  rfl

end Graph

end Narrative
