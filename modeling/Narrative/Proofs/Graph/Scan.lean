import Mathlib.Data.List.Induction
import Mathlib.Data.List.Nodup
import Narrative.Proofs.Document.Preorder
import Narrative.Proofs.Graph.Outline

/-!
The document without an index. Whatever a graph looks up can be found by looking through the
nodes of the document, and through the outline in its order, from the beginning each time. Main
statement: a document has a graph unless an id occurs twice among its nodes, of which the first
repetition is reported; and the graph answers what such a search finds, however often the ids of
the outline occur, whether or not they are those of nodes, and whatever the nodes themselves
refer to.
-/

namespace Narrative

namespace Document

/-- The first node of an id. -/
def node? (d : Document) (id : String) : Option Node :=
  d.nodes.find? fun n => n.id = id

/-- The first child that is a node, of the first outline entry with the id of a node. -/
def firstChild? (d : Document) (n : Node) : Option Node :=
  (d.outline.preorder.find? fun entry => entry.id = n.id).bind fun entry =>
    entry.children.findSome? fun child => d.node? child.id

/-- The node of the first outline entry with a child of an id, if that entry is a node, and
otherwise the node that the node of the id refers to. -/
def parent? (d : Document) (id : String) : Option Node :=
  ((d.outline.preorder.find? fun entry => entry.children.any fun child => child.id = id).bind
      fun entry => d.node? entry.id).or
    ((d.node? id).bind fun n => n.parent.bind d.node?)

/-- Whether a node is the first one whose id has occurred before. -/
def FirstRepeats (d : Document) (n : Node) : Prop :=
  ∃ before after, d.nodes = before ++ n :: after ∧ (before.map Node.id).Nodup ∧
    n.id ∈ before.map Node.id

/-- A list with a repetition has a first one. -/
private theorem exists_first_repetition {α β : Type} {f : α → β} {items : List α}
    (h : ¬(items.map f).Nodup) :
    ∃ before a after, items = before ++ a :: after ∧ (before.map f).Nodup ∧
      f a ∈ before.map f := by
  induction items using List.reverseRecOn with
  | nil => exact absurd List.nodup_nil h
  | append_singleton items a ih =>
      by_cases hitems : (items.map f).Nodup
      · refine ⟨items, a, [], rfl, hitems, ?_⟩
        by_contra hnew
        apply h
        rw [List.map_append, List.map_singleton, ← List.concat_eq_append]
        exact hitems.concat hnew
      · obtain ⟨before, b, after, heq, hrepeated⟩ := ih hitems
        exact ⟨before, b, after ++ [a], by rw [heq, List.append_assoc, List.cons_append], hrepeated⟩

theorem exists_firstRepeats_iff {d : Document} :
    (∃ n, d.FirstRepeats n) ↔ ¬(d.nodes.map Node.id).Nodup := by
  constructor
  · rintro ⟨n, before, after, hnodes, -, hrepeated⟩ hids
    rw [hnodes, List.map_append, List.map_cons, List.nodup_append] at hids
    exact hids.2.2 n.id hrepeated n.id List.mem_cons_self rfl
  · intro hids
    obtain ⟨before, n, after, hnodes, hrepeated⟩ := exists_first_repetition hids
    exact ⟨n, before, after, hnodes, hrepeated⟩

end Document

namespace Graph

variable {document : Document} {g : Graph} {n : Node} {fault : Fault}

theorem indexNodes_append (index : Std.TreeMap String Node) (first second : List Node) :
    indexNodes index (first ++ second) =
      indexNodes index first >>= fun after => indexNodes after second := by
  induction first generalizing index with
  | nil => rfl
  | cons node nodes ih =>
      rw [List.cons_append, indexNodes, indexNodes]
      split
      · rfl
      · exact ih _

/-- The first node whose id has occurred before is where the indexing of a document stops. -/
theorem ofDocument_of_firstRepeats (h : document.FirstRepeats n) :
    ofDocument document = .error (.duplicateNodeId n.id) := by
  obtain ⟨before, after, hnodes, hids, hrepeated⟩ := h
  obtain ⟨index, hindex⟩ : ∃ index, indexNodes ∅ before = .ok index :=
    exists_indexNodes hids (by simp)
  obtain ⟨first, hfirst, hid⟩ := List.mem_map.mp hrepeated
  have hknown : index[n.id]? = some first :=
    (getElem?_indexNodes hindex).mpr (.inr ⟨hfirst, hid⟩)
  have hcontains : index.contains n.id = true := by
    rw [Std.TreeMap.contains_eq_isSome_getElem?, hknown, Option.isSome_some]
  have hstops : indexNodes ∅ document.nodes = .error (.duplicateNodeId n.id) := by
    rw [hnodes, indexNodes_append, hindex]
    exact if_pos hcontains
  rw [ofDocument, hstops]
  rfl

theorem ofDocument_eq_error_iff :
    ofDocument document = .error fault ↔
      ∃ n, document.FirstRepeats n ∧ fault = .duplicateNodeId n.id := by
  constructor
  · intro hfault
    have hids : ¬(document.nodes.map Node.id).Nodup := by
      intro hids
      obtain ⟨g, hg⟩ := exists_ofDocument hids
      rw [hfault] at hg
      cases hg
    obtain ⟨n, hn⟩ := Document.exists_firstRepeats_iff.mpr hids
    have hsame := hfault.symm.trans (ofDocument_of_firstRepeats hn)
    exact ⟨n, hn, Except.error.inj hsame⟩
  · rintro ⟨n, hn, rfl⟩
    exact ofDocument_of_firstRepeats hn

theorem node?_eq_scan (hg : ofDocument document = .ok g) : g.node? = document.node? := by
  funext id
  cases hfound : document.node? id with
  | none =>
      rw [node?_eq_none_iff hg]
      simpa [Document.node?] using hfound
  | some n =>
      rw [node?_eq_some_iff hg]
      exact ⟨List.mem_of_find?_eq_some hfound, by simpa using List.find?_some hfound⟩

theorem firstChild?_eq_scan (hg : ofDocument document = .ok g) :
    g.firstChild? = document.firstChild? := by
  funext n
  rw [firstChild?, entryIndex_eq hg, getElem?_indexEntries, Outline.walk_eq_preorder,
    node?_eq_scan hg, Document.firstChild?]
  cases document.outline.preorder.find? fun entry => entry.id = n.id <;> rfl

theorem parent?_eq_scan (hg : ofDocument document = .ok g) : g.parent? = document.parent? := by
  funext id
  rw [parent?_eq hg, Outline.walk_eq_preorder, node?_eq_scan hg, Document.parent?]

/-- A document fails to have a graph if and only if an id occurs twice among its nodes, and the
fault names the first id that occurs again. Otherwise the graph counts all nodes, has for an id
the one node with that id, and answers for first children and parents what looking through the
document and its outline from the beginning finds. -/
theorem ofDocument_agrees_scan (document : Document) :
    ((∃ fault, ofDocument document = .error fault) ↔ ¬(document.nodes.map Node.id).Nodup) ∧
    (∀ fault, ofDocument document = .error fault ↔
      ∃ n, document.FirstRepeats n ∧ fault = .duplicateNodeId n.id) ∧
    ∀ g, ofDocument document = .ok g →
      g.nodeCount = document.nodes.length ∧
      (∀ id n, g.node? id = some n ↔ n ∈ document.nodes ∧ n.id = id) ∧
      (∀ n, g.firstChild? n = document.firstChild? n) ∧
      ∀ id, g.parent? id = document.parent? id := by
  refine ⟨⟨?_, ?_⟩, fun fault => ofDocument_eq_error_iff, fun g hg => ⟨?_, ?_, ?_, ?_⟩⟩
  · rintro ⟨fault, hfault⟩
    obtain ⟨n, hn, -⟩ := ofDocument_eq_error_iff.mp hfault
    exact Document.exists_firstRepeats_iff.mp ⟨n, hn⟩
  · intro hids
    obtain ⟨n, hn⟩ := Document.exists_firstRepeats_iff.mpr hids
    exact ⟨_, ofDocument_of_firstRepeats hn⟩
  · exact nodeCount_eq hg
  · exact fun id n => node?_eq_some_iff hg
  · exact congrFun (firstChild?_eq_scan hg)
  · exact congrFun (parent?_eq_scan hg)

/-- A storehouse of which the outline has two halls and a shed. The first hall holds a drawer and
a bed, the second one and the shed a lamp; the shed and the drawer are no nodes, and the lamp
refers to the bed. -/
def storehouse : Document where
  packages := [{
    name := "Main"
    nodes := [
      { id := "hall", typeName := "FlowFragment" },
      { id := "bed", typeName := "DialogueFragment" },
      { id := "lamp", typeName := "DialogueFragment", parent := some "bed" }] }]
  outline :=
    .entry "" [.entry "hall" [.entry "drawer" [], .entry "bed" []],
      .entry "shed" [.entry "lamp" []], .entry "hall" [.entry "lamp" []]]

/-- The first hall counts, the drawer does not, and the lamp in the shed goes by what it refers
to; with its nodes written down twice the storehouse has no graph, because of the hall. -/
theorem ofDocument_agrees_scan_of_storehouse :
    (∃ g hall bed, ofDocument storehouse = .ok g ∧ storehouse.nodes[0]? = some hall ∧
      storehouse.nodes[1]? = some bed ∧ g.nodeCount = 3 ∧ g.firstChild? hall = some bed ∧
      g.parent? "bed" = some hall ∧ g.parent? "lamp" = some bed) ∧
    ofDocument { storehouse with packages := storehouse.packages ++ storehouse.packages } =
      .error (.duplicateNodeId "hall") := by
  constructor
  · have hindexed : ofDocument storehouse = .ok _ := rfl
    obtain ⟨hcount, -, hchild, hparent⟩ := (ofDocument_agrees_scan storehouse).2.2 _ hindexed
    refine ⟨_, _, _, hindexed, rfl, rfl, hcount, ?_, ?_, ?_⟩
    · rw [hchild]
      rfl
    · rw [hparent]
      rfl
    · rw [hparent]
      rfl
  · refine ((ofDocument_agrees_scan _).2.1 _).mpr ⟨_, ⟨storehouse.nodes, _, rfl, ?_, ?_⟩, rfl⟩
    · decide
    · decide

end Graph

end Narrative
