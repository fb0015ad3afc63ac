import Narrative.Graph.Search

/-!
What the node index answers. The index of a document holds every node of it under
its own id and nothing else, so an id that it does not know is the id of no node.
Every way from one node to another goes through the index.
-/

namespace Narrative.Graph

/-- After an indexing that succeeds, an id is known if it was known before or is that
of one of the indexed nodes. -/
theorem getElem?_indexNodes {index after : Std.TreeMap String Node} {nodes : List Node}
    (h : indexNodes index nodes = .ok after) {id : String} {n : Node} :
    after[id]? = some n ↔ index[id]? = some n ∨ (n ∈ nodes ∧ n.id = id) := by
  induction nodes generalizing index with
  | nil =>
      cases h
      simp
  | cons node nodes ih =>
      unfold indexNodes at h
      split at h
      · cases h
      · rename_i hnew
        rw [ih h, Std.TreeMap.getElem?_insert]
        by_cases hid : node.id = id
        · subst hid
          have hnone : index[node.id]? = none := by
            apply Std.TreeMap.getElem?_eq_none
            simpa using hnew
          simp only [hnone, Std.ReflCmp.compare_self, if_true, Option.some.injEq, List.mem_cons]
          grind
        · have hcompare : ¬compare node.id id = .eq := by
            simpa using hid
          rw [if_neg hcompare]
          grind

theorem size_indexNodes {index after : Std.TreeMap String Node} {nodes : List Node}
    (h : indexNodes index nodes = .ok after) : after.size = index.size + nodes.length := by
  induction nodes generalizing index with
  | nil =>
      cases h
      rfl
  | cons node nodes ih =>
      unfold indexNodes at h
      split at h
      · cases h
      · rename_i hnew
        rw [ih h, Std.TreeMap.size_insert, if_neg hnew, List.length_cons]
        omega

/-- Nodes with ids of their own, none of which is known yet, can be indexed. -/
theorem exists_indexNodes {index : Std.TreeMap String Node} {nodes : List Node}
    (hids : (nodes.map Node.id).Nodup) (hnew : ∀ n ∈ nodes, n.id ∉ index) :
    ∃ after, indexNodes index nodes = .ok after := by
  induction nodes generalizing index with
  | nil => exact ⟨index, rfl⟩
  | cons node nodes ih =>
      rw [List.map_cons, List.nodup_cons] at hids
      have hnode : ¬index.contains node.id = true := hnew node (by simp)
      unfold indexNodes
      rw [if_neg hnode]
      apply ih hids.2
      intro n hn hmem
      rcases Std.TreeMap.mem_insert.mp hmem with hsame | hknown
      · have hid : node.id = n.id := by simpa using hsame
        exact hids.1 (hid ▸ List.mem_map_of_mem hn)
      · exact hnew n (by simp [hn]) hknown

theorem exists_ofDocument {document : Document} (hids : (document.nodes.map Node.id).Nodup) :
    ∃ g, ofDocument document = .ok g := by
  have hindexed : ∃ index, indexNodes ∅ document.nodes = .ok index :=
    exists_indexNodes hids (by simp)
  obtain ⟨index, hindex⟩ := hindexed
  simp only [ofDocument, hindex]
  exact ⟨_, rfl⟩

theorem entryIndex_eq {document : Document} {g : Graph} (h : ofDocument document = .ok g) :
    g.entryIndex = indexEntries document.outline.walk := by
  obtain ⟨index, -, rfl⟩ := ofDocument_eq_ok h
  rfl

theorem parentIndex_eq {document : Document} {g : Graph} (h : ofDocument document = .ok g) :
    g.parentIndex = indexParents document.outline.walk := by
  obtain ⟨index, -, rfl⟩ := ofDocument_eq_ok h
  rfl

theorem nodeCount_eq {document : Document} {g : Graph} (h : ofDocument document = .ok g) :
    g.nodeCount = document.nodes.length := by
  obtain ⟨index, hindex, rfl⟩ := ofDocument_eq_ok h
  simpa [nodeCount] using size_indexNodes hindex

/-- The node of an id is the node of the document that has it. -/
theorem node?_eq_some_iff {document : Document} {g : Graph} (h : ofDocument document = .ok g)
    {id : String} {n : Node} :
    g.node? id = some n ↔ n ∈ document.nodes ∧ n.id = id := by
  obtain ⟨index, hindex, rfl⟩ := ofDocument_eq_ok h
  have hlookup : index[id]? = some n ↔
      (∅ : Std.TreeMap String Node)[id]? = some n ∨ (n ∈ document.nodes ∧ n.id = id) :=
    getElem?_indexNodes hindex
  simpa [node?] using hlookup

theorem node?_eq_none_iff {document : Document} {g : Graph} (h : ofDocument document = .ok g)
    {id : String} : g.node? id = none ↔ ∀ n ∈ document.nodes, n.id ≠ id := by
  rw [Option.eq_none_iff_forall_ne_some]
  constructor
  · intro hnone n hmem hid
    exact hnone n ((node?_eq_some_iff h).mpr ⟨hmem, hid⟩)
  · intro hall n hn
    obtain ⟨hmem, hid⟩ := (node?_eq_some_iff h).mp hn
    exact hall n hmem hid

theorem ofDocument_document {document : Document} {g : Graph} (h : ofDocument document = .ok g) :
    ofDocument g.document = .ok g := by
  rw [document_of_ofDocument h, h]

/-- Whether a node is the one that the graph has for some id. -/
def Holds (g : Graph) (n : Node) : Prop :=
  ∃ id, g.node? id = some n

theorem holds_iff {document : Document} {g : Graph} (h : ofDocument document = .ok g) {n : Node} :
    g.Holds n ↔ n ∈ document.nodes := by
  constructor
  · rintro ⟨id, hn⟩
    exact ((node?_eq_some_iff h).mp hn).1
  · intro hmem
    exact ⟨n.id, (node?_eq_some_iff h).mpr ⟨hmem, rfl⟩⟩

theorem node?_id {document : Document} {g : Graph} (h : ofDocument document = .ok g) {n : Node}
    (hn : g.Holds n) : g.node? n.id = some n :=
  (node?_eq_some_iff h).mpr ⟨(holds_iff h).mp hn, rfl⟩

theorem holds_of_resolve {g : Graph} {source target : Node} {edge : Edge}
    (h : g.resolve source edge = .ok target) : g.Holds target :=
  ⟨edge.target, resolve_eq_ok_iff.mp h⟩

theorem holds_of_firstChild? {g : Graph} {n child : Node} (h : g.firstChild? n = some child) :
    g.Holds child := by
  unfold firstChild? at h
  split at h
  · obtain ⟨entry, -, hchild⟩ := List.exists_of_findSome?_eq_some h
    exact ⟨entry.id, hchild⟩
  · cases h

theorem holds_of_parent? {g : Graph} {id : String} {parent : Node}
    (h : g.parent? id = some parent) : g.Holds parent := by
  unfold parent? at h
  split at h
  · rename_i found hfound
    cases h
    obtain ⟨outer, -, houter⟩ := Option.bind_eq_some_iff.mp hfound
    exact ⟨outer, houter⟩
  · obtain ⟨child, -, hchild⟩ := Option.bind_eq_some_iff.mp h
    obtain ⟨outer, -, houter⟩ := Option.bind_eq_some_iff.mp hchild
    exact ⟨outer, houter⟩

theorem mem_nodes_of_findStart {g : Graph} {marker : String} {strict : Bool} {start : Node}
    (h : g.findStart marker strict = .ok start) : start ∈ g.document.nodes :=
  (List.mem_filter.mp (mem_startCandidates_of_findStart h)).1

end Narrative.Graph
