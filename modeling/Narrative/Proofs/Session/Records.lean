import Narrative.Proofs.Graph.Enclosing
import Narrative.Proofs.Session.Fresh

/-!
What a session holds. Positions, checkpoints and open containers are set at different moments,
and going back sets them from what a checkpoint has kept. In every session of every run they
are in order nevertheless: only nodes of the right kinds are stood at, left open or gone back
to, and every node that is held anywhere is the one that the graph has for its id.
-/

namespace Narrative

theorem Kind.isDisplayed_iff {kind : Kind} :
    kind.isDisplayed = true ↔ kind = .instruction ∨ kind = .dialogue := by
  cases kind <;> simp [isDisplayed]

/-- The containers that are open after a hop. -/
def Hop.containers : Hop → List Node
  | .on _ containers => containers
  | .rest _ containers => containers

namespace Graph

variable {g : Graph} {store : Store} {containers : List Node} {n : Node}

/-- Nodes that can be open around a reader: containers of the graph. -/
def Encloses (g : Graph) (containers : List Node) : Prop :=
  ∀ n ∈ containers, g.Holds n ∧ g.kindOf n = .container

theorem encloses_containersAround (steps : Nat) (n : Node) :
    g.Encloses (g.containersAround steps n) := by
  intro m hmem
  obtain ⟨hlineage, hkind⟩ := mem_containersAround.mp hmem
  exact ⟨(around_of_mem_lineage hlineage).holds, hkind⟩

theorem encloses_of_ownEdges {next : Hop} (hopen : g.Encloses containers)
    (h : g.ownEdges containers n = .ok next) : g.Encloses next.containers := by
  rcases ownEdges_eq_ok h with ⟨-, rfl⟩ | ⟨_, _, -, -, rfl⟩ | ⟨-, rfl⟩
  · exact hopen
  · exact hopen
  · exact hopen

/-- A hop leaves the open containers as they are, leaves the innermost of them, or opens the
container that the reader has come to. -/
theorem encloses_of_hop {next : Hop} (hn : g.Holds n) (hopen : g.Encloses containers)
    (h : g.hop store containers n = .ok next) : g.Encloses next.containers := by
  unfold hop at h
  split at h
  · cases h
    exact hopen
  · cases h
    exact hopen
  · cases h
    exact hopen
  · obtain ⟨target, -, rfl⟩ := Outcome.map_eq_ok_iff.mp h
    exact hopen
  · obtain ⟨target, -, rfl⟩ := Outcome.map_eq_ok_iff.mp h
    exact hopen
  · rename_i hkind
    split at h
    · exact encloses_of_ownEdges (fun m hmem => hopen m (List.mem_of_mem_tail hmem)) h
    · split at h
      · cases h
        exact List.forall_mem_cons.mpr ⟨⟨hn, hkind⟩, hopen⟩
      · exact encloses_of_ownEdges hopen h
  · cases h

theorem encloses_of_leadsTo {here there : List Node × Node} (h : g.LeadsTo store here there)
    (hhere : g.Holds here.2) (hopen : g.Encloses here.1) : g.Encloses there.1 := by
  induction h with
  | refl => exact hopen
  | tail hwalk hhop ih => exact encloses_of_hop (holds_of_leadsTo hwalk hhere) ih hhop

theorem encloses_of_settle {budget : Nat} {after : List Node} {position : Position}
    (hn : g.Holds n) (hopen : g.Encloses containers)
    (h : g.settle store budget containers n = .ok (position, after)) : g.Encloses after := by
  obtain ⟨here, hwalk, hhop⟩ := exists_rest_of_settle h
  exact encloses_of_hop (holds_of_leadsTo hwalk hn) (encloses_of_leadsTo hwalk hn hopen) hhop

/-- Where a node may be passed by: a choice led to it, and it is a shown node with a single
edge. -/
def PassesBy (g : Graph) (isChoice : Bool) (skipped : Option Node) : Prop :=
  ∀ n ∈ skipped,
    isChoice = true ∧ g.Holds n ∧ (g.kindOf n).isDisplayed = true ∧ n.edgeCount = 1

/-- A checkpoint to which a reader can go back: one can stand at its node again. -/
structure Proper (g : Graph) (c : Checkpoint) : Prop where
  stands : g.Stands (g.returnPosition c.node)
  isChoice : c.isChoice = g.offersOnReturn c.node
  containers : g.Encloses c.containers
  skipped : g.PassesBy c.isChoice c.skipped

theorem Proper.isChoice_iff {c : Checkpoint} (h : g.Proper c) :
    c.isChoice = true ↔ g.kindOf c.node = .hub ∨ 1 < c.node.edgeCount := by
  rw [h.isChoice]
  simp [offersOnReturn]

theorem Proper.displayed_of_not_isChoice {c : Checkpoint} (h : g.Proper c)
    (hchoice : c.isChoice = false) :
    (g.kindOf c.node = .instruction ∨ g.kindOf c.node = .dialogue) ∧ c.node.edgeCount ≤ 1 := by
  have hoffers : g.offersOnReturn c.node = false := h.isChoice.symm.trans hchoice
  have hstands := h.stands
  rw [returnPosition, hoffers] at hstands
  have hfew : ¬1 < c.node.edgeCount := by
    intro hmany
    simp [offersOnReturn, hmany] at hoffers
  exact ⟨Kind.isDisplayed_iff.mp hstands.2, Nat.le_of_not_lt hfew⟩

/-- What a route keeps of the way that a reader has come. -/
structure Recorded (g : Graph) (r : Route) : Prop where
  history : ∀ n ∈ r.history, g.Holds n
  containers : g.Encloses r.containers
  checkpoints : ∀ c ∈ r.checkpoints, g.Proper c

theorem holds_of_returnPosition (h : g.Stands (g.returnPosition n)) : g.Holds n := by
  unfold returnPosition at h
  split at h
  · exact h.1
  · exact h.1

variable {p : Progress} {r : Route}

theorem Recorded.standAt (h : g.Recorded r) (position : Position) :
    g.Recorded (r.standAt position) :=
  ⟨h.history, h.containers, h.checkpoints⟩

theorem Recorded.pass (h : g.Recorded r) (hn : g.Holds n) : g.Recorded (r.pass n) := by
  refine ⟨?_, h.containers, h.checkpoints⟩
  intro m hmem
  rcases List.mem_append.mp hmem with hmem | hmem
  · exact h.history m hmem
  · rw [List.mem_singleton.mp hmem]
    exact hn

theorem Recorded.leave {text : String} {isChoice : Bool} {skipped : Option Node}
    (h : g.Recorded p.route) (hstands : g.Stands (g.returnPosition n))
    (hchoice : isChoice = g.offersOnReturn n)
    (hskipped : g.PassesBy isChoice skipped) :
    g.Recorded (p.leave n text isChoice skipped).route := by
  have hpassed := h.pass (holds_of_returnPosition hstands)
  refine ⟨hpassed.history, h.containers, ?_⟩
  exact List.forall_mem_cons.mpr ⟨⟨hstands, hchoice, h.containers, hskipped⟩, h.checkpoints⟩

theorem Recorded.rewind (h : g.Recorded p.route) : g.Recorded (g.rewind p).route := by
  unfold Graph.rewind
  split
  · exact h
  · rename_i c checkpoints heq
    have hpast := h.checkpoints
    rw [heq, List.forall_mem_cons] at hpast
    exact ⟨fun m hmem => h.history m (List.mem_of_mem_take hmem), hpast.1.containers, hpast.2⟩

end Graph

namespace Story

variable {story : Story} {s : Session} {p q : Progress} {n : Node}

theorem recorded_of_enter (hn : story.graph.Holds n) (hp : story.graph.Recorded p.route)
    (h : story.enter p n = .ok q) : story.graph.Recorded q.route := by
  obtain ⟨position, containers, hsettle, hroute, -, -⟩ := enter_eq_ok h
  rw [hroute]
  exact ⟨hp.history, Graph.encloses_of_settle hn hp.containers hsettle, hp.checkpoints⟩

theorem recorded_of_reenter (hn : story.graph.Holds n) (h : story.reenter p n = .ok q) :
    story.graph.Recorded q.route := by
  refine recorded_of_enter hn ⟨?_, Graph.encloses_containersAround _ n, ?_⟩ h
  · intro m hmem
    cases hmem
  · intro c hmem
    cases hmem

theorem recorded_of_advanceFrom (hstands : story.graph.Stands (.displaying n))
    (hp : story.graph.Recorded p.route) (h : story.advanceFrom p n = .ok q) :
    story.graph.Recorded q.route := by
  have hleave (hfew : n.edgeCount ≤ 1) :
      story.graph.Recorded
        (p.leave n (n.summary (story.graph.kindOf n)) false none).route := by
    have hreturn := Graph.returnPosition_of_displaying hstands hfew
    have hoffers := Graph.offersOnReturn_of_displaying hstands hfew
    exact hp.leave (hreturn ▸ hstands) hoffers.symm (by simp [Graph.PassesBy])
  unfold advanceFrom at h
  simp only at h
  split at h
  · cases h
  · split at h
    · rename_i hedges
      cases h
      exact (hleave (by simp [Node.edgeCount, hedges])).standAt .ended
    · rename_i edge hedges
      obtain ⟨next, hnext, henter⟩ := Outcome.bind_eq_ok_iff.mp h
      exact recorded_of_enter (Graph.holds_of_resolve hnext)
        (hleave (by simp [Node.edgeCount, hedges])) henter
    · cases h
      exact hp.standAt (.offering n)

theorem recorded_of_choose {target : Node} {text : String}
    (hstands : story.graph.Stands (.offering n)) (htarget : story.graph.Holds target)
    (hp : story.graph.Recorded p.route) (h : story.choose p n target text = .ok q) :
    story.graph.Recorded q.route := by
  have hreturn := Graph.returnPosition_of_offering hstands
  have hoffers := (Graph.offersOnReturn_of_offering hstands).symm
  have hback : story.graph.Stands (story.graph.returnPosition n) := hreturn ▸ hstands
  rcases choose_cases h with
    ⟨edge, next, performed, hdisplayed, hedges, hnext, hperformed, henter⟩ | henter
  · obtain ⟨-, -, hroute⟩ := visit_of_perform hperformed
    have hleft : story.graph.Recorded (p.leave n text true (some target)).route :=
      hp.leave hback hoffers (by simp [Graph.PassesBy, htarget, hdisplayed, Node.edgeCount, hedges])
    have hperformed : story.graph.Recorded performed.route := hroute ▸ hleft
    exact recorded_of_enter (Graph.holds_of_resolve hnext) (hperformed.pass htarget) henter
  · exact recorded_of_enter htarget (hp.leave hback hoffers (by simp [Graph.PassesBy])) henter

/-- What a trigger attempts from a sound session: to go on from a shown node, to take a choice
that is offered, to go back, or to come afresh to a node. -/
theorem attempt_cases (hs : story.Sound s) (hstart : story.graph.Holds story.start) {t : Trigger}
    {attempted : Except Fault Progress} (h : Attempt story s t attempted) (hq : attempted = .ok q) :
    (∃ n, s.progress.route.position = .displaying n ∧ story.advanceFrom s.progress n = .ok q) ∨
      (∃ n choices, ∃ choice ∈ choices, s.progress.route.position = .offering n ∧
        story.graph.choices s.progress.store n = .ok choices ∧
        story.choose s.progress n choice.target choice.text = .ok q) ∨
      q = story.graph.rewind s.progress ∨
      ∃ n, story.graph.Holds n ∧ story.reenter s.progress n = .ok q := by
  cases h with
  | advance hposition => exact .inl ⟨_, hposition, hq⟩
  | select hdisplay hchoice henabled =>
      obtain ⟨hposition, hchoices⟩ := hs.choices_of_display hdisplay
      exact .inr (.inl ⟨_, _, _, List.mem_of_getElem? hchoice, hposition, hchoices, hq⟩)
  | back =>
      cases hq
      exact .inr (.inr (.inl rfl))
  | jump hnode => exact .inr (.inr (.inr ⟨_, ⟨_, hnode⟩, hq⟩))
  | restart => exact .inr (.inr (.inr ⟨_, hstart, hq⟩))

/-- What a trigger attempts keeps the records of the way, going back included. -/
theorem recorded_of_attempt (hs : story.Sound s) (hstart : story.graph.Holds story.start)
    (hrecorded : story.graph.Recorded s.progress.route) {t : Trigger}
    (h : Attempt story s t (.ok q)) : story.graph.Recorded q.route := by
  have hstands := hs.stands
  rcases attempt_cases hs hstart h rfl with ⟨n, hposition, hadvance⟩ |
    ⟨n, choices, choice, hmem, hposition, hchoices, hchoose⟩ | rfl | ⟨n, hn, hreenter⟩
  · rw [hposition] at hstands
    exact recorded_of_advanceFrom hstands hrecorded hadvance
  · rw [hposition] at hstands
    exact recorded_of_choose hstands (Graph.holds_of_mem_choices hchoices hmem) hrecorded hchoose
  · exact hrecorded.rewind
  · exact recorded_of_reenter hn hreenter

theorem Reachable.recorded {document : Document} {settings : Settings}
    (h : Reachable document settings story s) :
    story.Sound s ∧ story.graph.Recorded s.progress.route := by
  refine Reachable.keeps (P := fun s => story.graph.Recorded s.progress.route) ?_ ?_ h
  · intro p q after hstart hq hshown
    rw [(shown_eq_ok hshown).1]
    exact recorded_of_reenter hstart hq
  · intro s t q after hstart hs hrecorded hattempt hshown
    rw [(shown_eq_ok hshown).1]
    exact recorded_of_attempt hs hstart hrecorded hattempt

end Story

/-- The nodes that a checkpoint holds. -/
def Checkpoint.nodes (c : Checkpoint) : List Node :=
  c.node :: (c.containers ++ c.skipped.toList)

/-- The nodes that a route holds: those of its position, of the way and of its checkpoints. -/
def Route.nodes (r : Route) : List Node :=
  r.position.node?.toList ++ r.history ++ r.containers ++ r.checkpoints.flatMap Checkpoint.nodes

/-- The nodes that a display holds, among them those that its choices lead to. -/
def Display.nodes : Display → List Node
  | .content c => [c.node]
  | .choices offer => offer.node :: offer.choices.map Choice.target
  | .ended => []

def Session.nodes (s : Session) : List Node :=
  s.progress.route.nodes ++ s.display.nodes

namespace Graph

variable {g : Graph} {n : Node}

theorem Proper.holds_of_mem {c : Checkpoint} (h : g.Proper c) (hmem : n ∈ c.nodes) :
    g.Holds n := by
  rcases List.mem_cons.mp hmem with rfl | hmem
  · exact holds_of_returnPosition h.stands
  · rcases List.mem_append.mp hmem with hmem | hmem
    · exact (h.containers n hmem).1
    · exact (h.skipped n (Option.mem_toList.mp hmem)).2.1

theorem Stands.holds_of_mem {position : Position} (h : g.Stands position)
    (hmem : n ∈ position.node?.toList) : g.Holds n := by
  cases position with
  | displaying shown => exact List.mem_singleton.mp hmem ▸ h.1
  | offering offering => exact List.mem_singleton.mp hmem ▸ h.1
  | ended => cases hmem

theorem Recorded.holds_of_mem {r : Route} (h : g.Recorded r) (hstands : g.Stands r.position)
    (hmem : n ∈ r.nodes) : g.Holds n := by
  simp only [Route.nodes, List.mem_append, List.mem_flatMap] at hmem
  rcases hmem with ((hmem | hmem) | hmem) | ⟨c, hc, hmem⟩
  · exact hstands.holds_of_mem hmem
  · exact h.history n hmem
  · exact (h.containers n hmem).1
  · exact (h.checkpoints c hc).holds_of_mem hmem

theorem Shows.holds_of_mem {p : Progress} {position : Position} {display : Display}
    (h : g.Shows p position display) (hstands : g.Stands position) (hmem : n ∈ display.nodes) :
    g.Holds n := by
  cases h with
  | displaying hnode =>
      rw [List.mem_singleton.mp hmem, hnode]
      exact hstands.1
  | offering hnode hchoices =>
      rcases List.mem_cons.mp hmem with rfl | hmem
      · rw [hnode]
        exact hstands.1
      · obtain ⟨choice, hchoice, rfl⟩ := List.mem_map.mp hmem
        exact holds_of_mem_choices hchoices hchoice
  | ended => cases hmem

end Graph

namespace Story

/-- A session in which everything that is held is in order. -/
structure Orderly (story : Story) (document : Document) (s : Session) : Prop where
  displaying (n : Node) : s.progress.route.position = .displaying n →
    story.graph.kindOf n = .instruction ∨ story.graph.kindOf n = .dialogue
  offering (n : Node) : s.progress.route.position = .offering n →
    story.graph.kindOf n = .hub ∨
      (1 < n.edgeCount ∧ (story.graph.kindOf n = .dialogue ∨ story.graph.kindOf n = .container))
  containers : ∀ n ∈ s.progress.route.containers, story.graph.kindOf n = .container
  pastContainers : ∀ c ∈ s.progress.route.checkpoints, ∀ n ∈ c.containers,
    story.graph.kindOf n = .container
  choice : ∀ c ∈ s.progress.route.checkpoints,
    (c.isChoice = true ↔ story.graph.kindOf c.node = .hub ∨ 1 < c.node.edgeCount)
  departure : ∀ c ∈ s.progress.route.checkpoints, c.isChoice = false →
    (story.graph.kindOf c.node = .instruction ∨ story.graph.kindOf c.node = .dialogue) ∧
      c.node.edgeCount ≤ 1
  skipped : ∀ c ∈ s.progress.route.checkpoints, ∀ n ∈ c.skipped, c.isChoice = true ∧
    (story.graph.kindOf n = .instruction ∨ story.graph.kindOf n = .dialogue) ∧ n.edgeCount = 1
  held : ∀ n ∈ s.nodes, n ∈ document.nodes ∧ story.graph.node? n.id = some n

variable {document : Document} {settings : Settings} {story : Story} {s : Session}

/-- Every session of every run is in order. -/
theorem orderly_of_reachable (h : Reachable document settings story s) :
    story.Orderly document s := by
  obtain ⟨hsound, hrecorded⟩ := h.recorded
  obtain ⟨first, triggers, hopened, -⟩ := h
  have hgraph := (ofDocument_eq_ok (opened_eq_ok_iff.mp hopened).1).1
  have hstands := hsound.stands
  have hholds (n : Node) (hmem : n ∈ s.nodes) : story.graph.Holds n := by
    rcases List.mem_append.mp hmem with hmem | hmem
    · exact hrecorded.holds_of_mem hstands hmem
    · exact (Graph.shows_of_render hsound.display).holds_of_mem hstands hmem
  refine ⟨?_, ?_, ?_, ?_, ?_, ?_, ?_, ?_⟩
  · intro n hposition
    rw [hposition] at hstands
    exact Kind.isDisplayed_iff.mp hstands.2
  · intro n hposition
    rw [hposition] at hstands
    exact hstands.2
  · intro n hmem
    exact (hrecorded.containers n hmem).2
  · intro c hc n hmem
    exact ((hrecorded.checkpoints c hc).containers n hmem).2
  · intro c hc
    exact (hrecorded.checkpoints c hc).isChoice_iff
  · intro c hc hchoice
    exact (hrecorded.checkpoints c hc).displayed_of_not_isChoice hchoice
  · intro c hc n hmem
    obtain ⟨hchoice, -, hdisplayed, hedges⟩ := (hrecorded.checkpoints c hc).skipped n hmem
    exact ⟨hchoice, Kind.isDisplayed_iff.mp hdisplayed, hedges⟩
  · intro n hmem
    exact ⟨(Graph.holds_iff hgraph).mp (hholds n hmem), Graph.node?_id hgraph (hholds n hmem)⟩

/-- On the tour a node is passed by, and a container is open at one of the checkpoints. -/
theorem orderly_of_reachable_of_tour :
    ∃ story first, opened crossroads {} = .ok (story, first) ∧
      (story.run first tour).2.progress.route.checkpoints.map
          (fun c => (c.node.id, c.isChoice, c.skipped.map Node.id, c.containers.map Node.id)) =
        [("hub", true, none, []), ("bed", false, none, ["room"]),
          ("hub", true, some "key", []), ("gate", false, none, [])] ∧
      story.Orderly crossroads (story.run first tour).2 := by
  have hopened : opened crossroads {} = .ok (_, _) := rfl
  exact ⟨_, _, hopened, rfl, orderly_of_reachable ⟨_, tour, hopened, rfl⟩⟩

end Story

end Narrative
