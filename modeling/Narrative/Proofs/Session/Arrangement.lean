import Narrative.Proofs.Graph.Lookup
import Narrative.Proofs.Session.Likeness
import Narrative.Proofs.Session.Transaction

/-!
How a document is arranged. The order of the nodes, and of the packages that they are in, plays
a part in two places only: of several nodes with one id the second is refused, and of several
marked nodes the first is the start. Where every node has its own id and one node is marked, two
arrangements of the same nodes are the same to every reader.
-/

namespace Narrative

/-- Documents with the same nodes in any order and in any packages, and with the same variables,
types and outline. -/
structure Document.Rearranges (d other : Document) : Prop where
  namespaces : d.namespaces = other.namespaces
  types : d.types = other.types
  outline : d.outline = other.outline
  nodes : d.nodes.Perm other.nodes

namespace Graph

variable {document arranged : Document} {g other : Graph}

/-- Graphs of the same nodes answer alike, since the index of the nodes has no order. -/
theorem alike_of_rearranges (h : document.Rearranges arranged) (hg : ofDocument document = .ok g)
    (hother : ofDocument arranged = .ok other) : g.Alike other := by
  have hnode : g.node? = other.node? := by
    funext id
    apply Option.ext
    intro n
    rw [node?_eq_some_iff hg, node?_eq_some_iff hother, h.nodes.mem_iff]
  have hentries : g.entryIndex = other.entryIndex := by
    rw [entryIndex_eq hg, entryIndex_eq hother, h.outline]
  have hparents : g.parentIndex = other.parentIndex := by
    rw [parentIndex_eq hg, parentIndex_eq hother, h.outline]
  have htypes : g.document.types = other.document.types := by
    rw [document_of_ofDocument hg, document_of_ofDocument hother, h.types]
  refine ⟨hnode, ?_, ?_, ?_, ?_⟩
  · funext n
    simp only [firstChild?, hentries, hnode]
  · funext id
    simp only [parent?, hparents, hnode]
  · rw [nodeCount_eq hg, nodeCount_eq hother, h.nodes.length_eq]
  · funext n
    simp only [kindOf, kindOfType, definitionsOf, htypes]

theorem findStart_of_startCandidates {marker : String} {start : Node}
    (h : g.startCandidates marker = [start]) (strict : Bool) :
    g.findStart marker strict = .ok start := by
  simp only [findStart, h]

/-- The only marked node is the only candidate in every arrangement of the nodes. -/
theorem exists_startCandidates_of_rearranges (h : document.Rearranges arranged)
    (hg : ofDocument document = .ok g) (hother : ofDocument arranged = .ok other) {marker : String}
    (hmarked : document.nodes.countP (fun n => n.mentions marker) = 1) :
    ∃ start, g.startCandidates marker = [start] ∧ other.startCandidates marker = [start] := by
  rw [List.countP_eq_length_filter] at hmarked
  obtain ⟨start, hstart⟩ := List.length_eq_one_iff.mp hmarked
  have hperm := (h.nodes.filter fun n => n.mentions marker).symm
  rw [hstart] at hperm
  refine ⟨start, ?_, ?_⟩
  · rw [startCandidates, document_of_ofDocument hg, hstart]
  · rw [startCandidates, document_of_ofDocument hother, List.perm_singleton.mp hperm]

end Graph

namespace Story

variable {document arranged : Document} {settings : Settings}

theorem exists_alike_of_rearranges (h : document.Rearranges arranged)
    (hids : (document.nodes.map Node.id).Nodup)
    (hmarked : document.nodes.countP (fun n => n.mentions settings.startMarker) = 1) :
    ∃ story other, ofDocument document settings = .ok story ∧
      ofDocument arranged settings = .ok other ∧ story.Alike other ∧
      story.graph.document.namespaces = other.graph.document.namespaces := by
  obtain ⟨g, hg⟩ := Graph.exists_ofDocument hids
  obtain ⟨other, hother⟩ := Graph.exists_ofDocument ((h.nodes.map Node.id).nodup_iff.mp hids)
  obtain ⟨start, hstart, hotherStart⟩ :=
    Graph.exists_startCandidates_of_rearranges h hg hother hmarked
  refine ⟨⟨g, settings, start⟩, ⟨other, settings, start⟩, ?_, ?_, ?_, ?_⟩
  · simp only [ofDocument, hg, bind, Except.bind, Graph.findStart_of_startCandidates hstart]
    rfl
  · simp only [ofDocument, hother, bind, Except.bind,
      Graph.findStart_of_startCandidates hotherStart]
    rfl
  · exact ⟨Graph.alike_of_rearranges h hg hother, rfl, rfl⟩
  · rw [Graph.document_of_ofDocument hg, Graph.document_of_ofDocument hother, h.namespaces]

/-- The same reader in two stories: the start and the session are the same, and the same triggers
get the same answers from both and lead to the same session. -/
def SameReader (reading other : Story × Session) : Prop :=
  reading.1.start = other.1.start ∧ reading.2 = other.2 ∧
    ∀ triggers, (reading.1.operate triggers).run reading.2 =
      (other.1.operate triggers).run other.2

/-- Documents with the same nodes, each with an id of its own and one of them marked as the start,
cannot be opened for the same fault however the nodes are arranged, or are both opened, and then
are the same to the reader for good. -/
theorem sameReader_of_rearranges (h : document.Rearranges arranged)
    (hids : (document.nodes.map Node.id).Nodup)
    (hmarked : document.nodes.countP (fun n => n.mentions settings.startMarker) = 1) :
    Outcome.Same SameReader (opened document settings) (opened arranged settings) := by
  obtain ⟨story, other, hstory, hother, halike, hdeclared⟩ :=
    exists_alike_of_rearranges h hids hmarked
  unfold opened
  rw [hstory, hother]
  change Outcome.Same SameReader (story.opening >>= fun first => .ok (story, first))
    (other.opening >>= fun first => .ok (other, first))
  rw [← halike.opening_eq hdeclared]
  apply Outcome.same_bind_of_eq
  intro first _
  refine ⟨halike.start, rfl, ?_⟩
  intro triggers
  rw [run_operate, run_operate, halike.run_eq]

/-- The crossroads turned round: the last node comes first, and each is in a package of its own. -/
def roundabout : Document :=
  { crossroads with packages := crossroads.nodes.reverse.map fun n => ⟨n.id, [n]⟩ }

theorem sameReader_of_rearranges_roundabout :
    ∃ story first other second, opened crossroads {} = .ok (story, first) ∧
      opened roundabout {} = .ok (other, second) ∧
      (roundabout.nodes.head?.map Node.id, crossroads.nodes.head?.map Node.id) =
        (some "hole", some "gate") ∧
      first = second ∧ (story.operate tour).run first = (other.operate tour).run second := by
  have hperm : crossroads.Rearranges roundabout :=
    ⟨rfl, rfl, rfl, (List.reverse_perm crossroads.nodes).symm⟩
  have hsame := @sameReader_of_rearranges crossroads roundabout {} hperm (by decide)
    (by decide +kernel)
  have hopened : opened crossroads {} = .ok (_, _) := rfl
  obtain ⟨⟨other, second⟩, hother, -, hfirst, hrun⟩ := hsame.exists_ok hopened
  exact ⟨_, _, _, _, hopened, hother, rfl, hfirst, hrun tour⟩

end Story

end Narrative
