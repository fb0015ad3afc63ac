import Narrative.Proofs.Graph.Kind
import Narrative.Proofs.Script.Guard
import Narrative.Proofs.Session.Undo

/-!
What faults say. A fault that a reader meets is a statement about the document, and it
is true: the node that it names is there and has just the defect that is reported. The
statements are listed once, one for each fault; every function that can end in a fault
is then seen to end in a true one.
-/

namespace Narrative

namespace Graph

/-- Whether a node refers to an id, over an edge or as the target of a jump. -/
def RefersTo (g : Graph) (n : Node) (target : String) : Prop :=
  (∃ edge ∈ n.edges, edge.target = target) ∨
    (g.kindOf n = .jump ∧ n.target = some target ∧ Text.isBlankText target = false)

/-- Whether a part of a node's script is the one with the given error: the expression of
an instruction, the line of a condition, or the guard of any node. -/
def Misreads (g : Graph) (n : Node) (cause : Script.LineError) : Prop :=
  (g.kindOf n = .instruction ∧ Script.assignments n.expression = .error cause) ∨
    (g.kindOf n = .condition ∧
      Script.guardConditions (String.ofList n.conditionLine) = .error cause) ∨
    Script.guardConditions n.guardText = .error cause

/-- What a fault says of the document, where so many automatic hops are allowed. That an
id is used twice, or that the start is missing or not unique, is never said to a reader. -/
def BearsOut (g : Graph) (budget : Nat) : Fault → Prop
  | .danglingEdge source target =>
    (∃ n ∈ g.document.nodes, n.id = source ∧ g.RefersTo n target) ∧
      ∀ n ∈ g.document.nodes, n.id ≠ target
  | .edgeCount node expected found =>
    ∃ n ∈ g.document.nodes, n.id = node ∧ g.kindOf n = .instruction ∧
      expected = 1 ∧ found = n.edgeCount ∧ n.edgeCount ≠ 1
  | .missingConditionBranch node branch =>
    ∃ n ∈ g.document.nodes, n.id = node ∧ g.kindOf n = .condition ∧
      ∀ pin, n.outputPins[if branch then 0 else 1]? = some pin → pin.connections = []
  | .missingJumpTarget node =>
    ∃ n ∈ g.document.nodes, n.id = node ∧ g.kindOf n = .jump ∧
      (∀ target, n.target = some target → Text.isBlankText target = true) ∧ n.edgeCount ≠ 1
  | .stepBudgetExceeded node allowed =>
    ∃ n ∈ g.document.nodes, n.id = node ∧ (g.kindOf n).isAutomatic = true ∧ allowed = budget
  | .unknownNodeType node typeName =>
    ∃ n ∈ g.document.nodes, n.id = node ∧ g.kindOf n = .unknown typeName ∧ typeName = n.typeName
  | .expression node cause => ∃ n ∈ g.document.nodes, n.id = node ∧ g.Misreads n cause
  | .duplicateNodeId _ => False
  | .noStartNode _ => False
  | .multipleStartNodes _ _ => False

section Faults

variable {g : Graph} {store : Store} {budget : Nat} {n : Node} {containers : List Node}

open Outcome

theorem blames_resolve (hg : ofDocument g.document = .ok g) (hn : g.Holds n) {edge : Edge}
    (hedge : edge ∈ n.edges) : Blames (g.BearsOut budget) (g.resolve n edge) := by
  unfold resolve
  split
  · exact blames_ok _
  · rename_i hnone
    apply blames_error
    have hrefers : g.RefersTo n edge.target := .inl ⟨edge, hedge, rfl⟩
    exact ⟨⟨n, (holds_iff hg).mp hn, rfl, hrefers⟩, (node?_eq_none_iff hg).mp hnone⟩

theorem blames_ofScript {α : Type} (hg : ofDocument g.document = .ok g) (hn : g.Holds n)
    {reading : Except Script.LineError α}
    (h : ∀ cause, reading = .error cause → g.Misreads n cause) :
    Blames (g.BearsOut budget) (Fault.ofScript n.id reading) := by
  cases reading with
  | ok a => exact blames_ok a
  | error cause => exact blames_error ⟨n, (holds_iff hg).mp hn, rfl, h cause rfl⟩

theorem blames_jumpTarget (hg : ofDocument g.document = .ok g) (hn : g.Holds n)
    (hkind : g.kindOf n = .jump) : Blames (g.BearsOut budget) (g.jumpTarget n) := by
  have hmem := (holds_iff hg).mp hn
  unfold jumpTarget
  split
  · rename_i target htarget
    obtain ⟨hfield, hblank⟩ := Option.filter_eq_some_iff.mp htarget
    split
    · exact blames_ok _
    · rename_i hnone
      apply blames_error
      have hrefers : g.RefersTo n target := .inr ⟨hkind, hfield, by simpa using hblank⟩
      exact ⟨⟨n, hmem, rfl, hrefers⟩, (node?_eq_none_iff hg).mp hnone⟩
  · rename_i hnone
    split
    · rename_i edge hedges
      exact blames_resolve hg hn (by simp [hedges])
    · rename_i hedges
      apply blames_error
      refine ⟨n, hmem, rfl, hkind, ?_, ?_⟩
      · intro target hfield
        simpa using Option.filter_eq_none_iff.mp hnone target hfield
      · intro hone
        obtain ⟨edge, hedge⟩ := List.length_eq_one_iff.mp hone
        exact hedges edge hedge

theorem blames_conditionHolds (hg : ofDocument g.document = .ok g) (hn : g.Holds n)
    (hkind : g.kindOf n = .condition) :
    Blames (g.BearsOut budget) (n.conditionHolds store) := by
  apply blames_ofScript hg hn
  intro cause h
  exact .inr (.inl ⟨hkind, Script.guardConditions_of_guardHolds h⟩)

theorem blames_branchTarget (hg : ofDocument g.document = .ok g) (hn : g.Holds n)
    (hkind : g.kindOf n = .condition) :
    Blames (g.BearsOut budget) (g.branchTarget store n) := by
  apply blames_bind (blames_conditionHolds hg hn hkind)
  intro holds _
  split
  · rename_i edge hedge
    obtain ⟨pin, hpin, hhead⟩ := Option.bind_eq_some_iff.mp hedge
    apply blames_resolve hg hn
    exact List.mem_flatMap.mpr ⟨pin, List.mem_of_getElem? hpin, List.mem_of_head? hhead⟩
  · rename_i hnone
    apply blames_error
    refine ⟨n, (holds_iff hg).mp hn, rfl, hkind, ?_⟩
    intro pin hpin
    simpa [hpin] using hnone

theorem blames_ownEdges (hg : ofDocument g.document = .ok g) (hn : g.Holds n) :
    Blames (g.BearsOut budget) (g.ownEdges containers n) := by
  unfold ownEdges
  split
  · exact blames_ok _
  · rename_i edge hedges
    exact blames_map (blames_resolve hg hn (by simp [hedges]))
  · exact blames_ok _

theorem blames_hop (hg : ofDocument g.document = .ok g) (hn : g.Holds n) :
    Blames (g.BearsOut budget) (g.hop store containers n) := by
  unfold hop
  split
  · exact blames_ok _
  · exact blames_ok _
  · exact blames_ok _
  · rename_i hkind
    exact blames_map (blames_jumpTarget hg hn hkind)
  · rename_i hkind
    exact blames_map (blames_branchTarget hg hn hkind)
  · split
    · exact blames_ownEdges hg hn
    · split
      · exact blames_ok _
      · exact blames_ownEdges hg hn
  · rename_i typeName hkind
    exact blames_error ⟨n, (holds_iff hg).mp hn, rfl, hkind, eq_typeName_of_kindOf hkind⟩

theorem isAutomatic_of_hop {next : Node} {after : List Node}
    (h : g.hop store containers n = .ok (.on next after)) :
    (g.kindOf n).isAutomatic = true := by
  unfold hop at h
  cases hkind : g.kindOf n <;> simp_all [Kind.isAutomatic]

theorem blames_settle (hg : ofDocument g.document = .ok g) (hn : g.Holds n) :
    Blames (g.BearsOut budget) (g.settle store budget containers n) := by
  obtain ⟨_, here, -, hwalk, hend⟩ := settleWithin_cases g store budget budget containers n
  have hhere : g.Holds here.2 := holds_of_leadsTo hwalk.reflTransGen hn
  unfold settle
  rcases hend with ⟨position, after, -, hrest⟩ | ⟨fault, hfault, hstop⟩ | ⟨-, there, hhop, hstop⟩
  · rw [hrest]
    exact blames_ok _
  · rw [hstop]
    exact blames_error (blames_hop hg hhere fault hfault)
  · rw [hstop]
    exact blames_error ⟨here.2, (holds_iff hg).mp hhere, rfl, isAutomatic_of_hop hhop, rfl⟩

theorem blames_admits (hg : ofDocument g.document = .ok g) (hn : g.Holds n) :
    Blames (g.BearsOut budget) (admits store n) := by
  unfold admits
  split
  · exact blames_ok true
  · apply blames_ofScript hg hn
    intro cause h
    exact .inr (.inr (Script.guardConditions_of_guardHolds h))

theorem blames_edgeChoice (hg : ofDocument g.document = .ok g) (hn : g.Holds n) {edge : Edge}
    (hedge : edge ∈ n.edges) (index : Nat) :
    Blames (g.BearsOut budget) (g.edgeChoice store n edge index) := by
  apply blames_bind (blames_resolve hg hn hedge)
  intro target htarget
  apply blames_bind (blames_admits hg (holds_of_resolve htarget))
  intro enabled _
  exact blames_ok _

theorem blames_branchChoice (hg : ofDocument g.document = .ok g) (hn : g.Holds n)
    {edge : Edge × Bool} (hedge : edge.1 ∈ n.edges) (line : String) (holds : Bool) (index : Nat) :
    Blames (g.BearsOut budget) (g.branchChoice n line holds edge index) := by
  apply blames_bind (blames_resolve hg hn hedge)
  intro target _
  exact blames_ok _

theorem mem_edges_of_branchEdges {edge : Edge × Bool} (h : edge ∈ n.branchEdges) :
    edge.1 ∈ n.edges := by
  unfold Node.branchEdges at h
  unfold Node.edges
  split at h <;> grind

theorem blames_choices (hg : ofDocument g.document = .ok g) (hn : g.Holds n) :
    Blames (g.BearsOut budget) (g.choices store n) := by
  unfold choices
  split
  · rename_i hkind
    apply blames_bind (blames_conditionHolds hg hn hkind)
    intro holds _
    apply blames_mapM
    rintro ⟨edge, index⟩ hmem
    apply blames_branchChoice hg hn
    exact mem_edges_of_branchEdges (List.fst_mem_of_mem_zipIdx hmem)
  · apply blames_mapM
    rintro ⟨edge, index⟩ hmem
    exact blames_edgeChoice hg hn (List.fst_mem_of_mem_zipIdx hmem) index

theorem blames_render {p : Progress} (hg : ofDocument g.document = .ok g)
    (hp : g.Stands p.route.position) : Blames (g.BearsOut budget) (g.render p) := by
  unfold render
  split
  · exact blames_ok _
  · exact blames_ok _
  · rename_i hposition
    rw [hposition] at hp
    exact blames_map (blames_choices hg hp.1)

end Faults

end Graph

namespace Story

variable {story : Story} {s : Session} {p : Progress} {n : Node}

open Outcome

theorem blames_perform {budget : Nat} (hg : Graph.ofDocument story.graph.document = .ok story.graph)
    (hn : story.graph.Holds n) (hkind : story.graph.kindOf n = .instruction) :
    Blames (story.graph.BearsOut budget) (p.perform n) := by
  apply blames_map
  apply Graph.blames_ofScript hg hn
  intro cause h
  exact .inl ⟨hkind, h⟩

theorem blames_enter (hg : Graph.ofDocument story.graph.document = .ok story.graph)
    (hn : story.graph.Holds n) :
    Blames (story.graph.BearsOut story.settings.maxAutoSteps) (story.enter p n) := by
  apply blames_bind (Graph.blames_settle hg hn)
  rintro ⟨position, containers⟩ hsettle
  have hstands := Graph.stands_of_settle hn hsettle
  dsimp only
  split
  · split
    · rename_i hkind
      exact blames_perform hg hstands.1 hkind
    · exact blames_ok _
  · exact blames_ok _

theorem blames_advanceFrom (hg : Graph.ofDocument story.graph.document = .ok story.graph)
    (hn : story.graph.Holds n) :
    Blames (story.graph.BearsOut story.settings.maxAutoSteps) (story.advanceFrom p n) := by
  unfold advanceFrom
  dsimp only
  split
  · rename_i hedges
    obtain ⟨hkind, hcount⟩ := hedges
    exact blames_error ⟨n, (Graph.holds_iff hg).mp hn, rfl, hkind, rfl, rfl, hcount⟩
  · split
    · exact blames_ok _
    · rename_i edge hedges
      apply blames_bind (Graph.blames_resolve hg hn (by simp [hedges]))
      intro next hnext
      exact blames_enter hg (Graph.holds_of_resolve hnext)
    · exact blames_ok _

theorem blames_choose (hg : Graph.ofDocument story.graph.document = .ok story.graph)
    {offering target : Node} (htarget : story.graph.Holds target) (text : String) :
    Blames (story.graph.BearsOut story.settings.maxAutoSteps)
      (story.choose p offering target text) := by
  unfold choose
  dsimp only
  split
  · rename_i edge _ hedges
    apply blames_bind (Graph.blames_resolve hg htarget (by simp [hedges]))
    intro next hnext
    have henter {performed : Progress} : Blames
        (story.graph.BearsOut story.settings.maxAutoSteps) (story.enter performed next) :=
      blames_enter hg (Graph.holds_of_resolve hnext)
    split
    · rename_i hkind
      apply blames_bind (blames_perform hg htarget hkind)
      intro performed _
      exact henter
    · exact henter
  · exact blames_enter hg htarget

/-- Whatever a reader attempts, a fault on the way is a true one. -/
theorem blames_attempt (hg : Graph.ofDocument story.graph.document = .ok story.graph)
    (hstart : story.graph.Holds story.start) (hs : story.Sound s) {t : Trigger}
    {attempted : Except Fault Progress} (h : Attempt story s t attempted) :
    Blames (story.graph.BearsOut story.settings.maxAutoSteps) attempted := by
  have hstands := hs.stands
  cases h with
  | advance hposition =>
      rw [hposition] at hstands
      exact blames_advanceFrom hg hstands.1
  | @select index offer choice hdisplay hchoice henabled =>
      obtain ⟨-, hchoices⟩ := hs.choices_of_display hdisplay
      exact blames_choose hg (Graph.holds_of_mem_choices hchoices (List.mem_of_getElem? hchoice)) _
  | back hpast => exact blames_ok _
  | @jump id n hnode => exact blames_enter hg ⟨id, hnode⟩
  | restart => exact blames_enter hg hstart

/-- In every session of every run, a trigger that ends in a fault ends in one that is
true of the document. -/
theorem bearsOut_of_fire {document : Document} {settings : Settings}
    (h : Reachable document settings story s) {t : Trigger} {fault : Fault}
    (hfault : (story.fire s t).1 = .error fault) :
    story.graph.document = document ∧ story.graph.BearsOut settings.maxAutoSteps fault := by
  obtain ⟨hstart, past, hpast⟩ := h.recalls
  obtain ⟨first, triggers, hopened, -⟩ := h
  obtain ⟨hgraph, rfl, -⟩ := ofDocument_eq_ok (opened_eq_ok_iff.mp hopened).1
  have hg := Graph.ofDocument_document hgraph
  refine ⟨Graph.document_of_ofDocument hgraph, ?_⟩
  have hstep : story.step s t = .error fault := by
    cases hstep : story.step s t with
    | error other => simpa [fire_of_error hstep] using hfault
    | ok after => simp [fire_of_ok hstep] at hfault
  rcases step_eq_error hstep with hattempt | ⟨p, hattempt, hshown⟩
  · exact blames_attempt hg hstart hpast.sound hattempt fault rfl
  · have hstands := hpast.stands_of_attempt hstart hattempt
    exact blames_map (Graph.blames_render hg hstands) fault hshown

/-- At the end of the tour the second choice leads to a jump to an id that no node has. -/
theorem bearsOut_of_fire_at_hole :
    ∃ story first, opened crossroads {} = .ok (story, first) ∧
      (story.fire (story.run first tour).2 (.select 1)).1 =
        .error (.danglingEdge "hole" "nowhere") ∧
      story.graph.document = crossroads ∧
      story.graph.BearsOut 256 (.danglingEdge "hole" "nowhere") := by
  have hopened : opened crossroads {} = .ok (_, _) := rfl
  exact ⟨_, _, hopened, rfl, bearsOut_of_fire (t := .select 1) ⟨_, tour, hopened, rfl⟩ rfl⟩

end Story

end Narrative
