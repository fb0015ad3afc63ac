import Narrative.Proofs.Graph.Enclosing
import Narrative.Proofs.Session.Budget
import Narrative.Proofs.Session.Enclosure

/-!
Two ways into a container. A reader who comes afresh to a container is led on to its first
child, and has the container open by then; a reader who comes afresh to the child has it open
because it is found by following parents. Both have the same containers open, to any depth,
and go on from the child together: the first reader has one automatic hop behind them.
-/

namespace Narrative

namespace Graph

variable {g : Graph} {store : Store} {n child : Node}

/-- A container that is not the innermost open one is entered at its first child. -/
theorem hopsTo_firstChild? {containers : List Node} (hkind : g.kindOf n = .container)
    (houter : isInnermost n containers = false) (hchild : g.firstChild? n = some child) :
    g.HopsTo store (containers, n) (n :: containers, child) := by
  simp only [HopsTo, hop, hkind, houter, Bool.false_eq_true, if_false, hchild]

/-- A reader who is led on to another node settles as from there, with a hop less to spare. -/
theorem settle_of_hopsTo {here there : List Node × Node} (h : g.HopsTo store here there)
    (budget : Nat) :
    g.settle store (budget + 1) here.1 here.2 =
      g.settleWithin store (budget + 1) budget there.1 there.2 := by
  have hhop : g.hop store here.1 here.2 = .ok (.on there.2 there.1) := h
  simp only [settle, settleWithin, hhop]

open Outcome

theorem outlasts_settle_of_hopsTo {here there : List Node × Node} (h : g.HopsTo store here there)
    (budget : Nat) :
    Outlasts (g.settle store budget here.1 here.2) (g.settle store budget there.1 there.2) := by
  cases budget with
  | zero =>
      have hhop : g.hop store here.1 here.2 = .ok (.on there.2 there.1) := h
      exact .inl ⟨here.2.id, 0, by simp only [settle, settleWithin, hhop]⟩
  | succ budget =>
      rw [settle_of_hopsTo h]
      exact outlasts_settleWithin (Nat.le_succ budget) _ _ _ _

/-- A hop to spare is all that it takes to be led on to another node first. -/
theorem outlasts_settle_succ_of_hopsTo {here there : List Node × Node}
    (h : g.HopsTo store here there) (budget : Nat) :
    Outlasts (g.settle store budget there.1 there.2)
      (g.settle store (budget + 1) here.1 here.2) := by
  rw [settle_of_hopsTo h]
  exact outlasts_settleWithin (Nat.le_refl budget) _ _ _ _

end Graph

namespace Story

open Outcome

variable {document : Document} {settings : Settings} {story : Story} {s : Session}
  {p : Progress} {n child : Node}

theorem outlasts_enter_of_hopsTo {containers : List Node}
    (h : story.graph.HopsTo p.store (p.route.containers, n) (containers, child)) :
    Outlasts (story.enter p n) (story.enter (p.within containers) child) := by
  unfold enter
  apply outlasts_bind (Graph.outlasts_settle_of_hopsTo h _)
  intro rest _
  exact .rfl

theorem outlasts_enter_succ_of_hopsTo {containers : List Node} {budget : Nat}
    (hbudget : story.settings.maxAutoSteps = budget + 1)
    (h : story.graph.HopsTo p.store (p.route.containers, n) (containers, child)) :
    Outlasts ((story.allowing budget).enter (p.within containers) child) (story.enter p n) := by
  unfold enter
  rw [hbudget]
  apply outlasts_bind (Graph.outlasts_settle_succ_of_hopsTo h budget)
  intro rest _
  exact .rfl

/-- The containers and their first children in a document whose outline has no id twice and
in which no node lies around itself. -/
structure Descends (story : Story) (n child : Node) : Prop where
  node? : story.graph.node? n.id = some n
  child? : story.graph.node? child.id = some child
  enclosing : story.graph.enclosingContainers child = n :: story.graph.enclosingContainers n
  hopsTo (store : Store) : story.graph.HopsTo store (story.graph.enclosingContainers n, n)
    (n :: story.graph.enclosingContainers n, child)

theorem descends_of_firstChild? (hg : Graph.ofDocument document = .ok story.graph)
    (hids : (document.outline.walk.map Outline.id).Nodup)
    (hacyclic : ∀ n, ¬story.graph.Around n n) (hn : n ∈ document.nodes)
    (hkind : story.graph.kindOf n = .container)
    (hchild : story.graph.firstChild? n = some child) : story.Descends n child := by
  have hholds := (Graph.holds_iff hg).mpr hn
  have hparent := Graph.parent?_of_firstChild? hg hids hholds hchild
  have houter := Graph.isInnermost_eq_false (fun _ => Graph.node?_id hg) hacyclic hholds
    (Graph.nested_containersAround story.graph.nodeCount n)
  exact
    { node? := Graph.node?_id hg hholds
      child? := Graph.node?_id hg (Graph.holds_of_firstChild? hchild)
      enclosing := Graph.enclosingContainers_of_parent? hg hacyclic hparent hkind
      hopsTo := fun store => Graph.hopsTo_firstChild? hkind houter hchild }

/-- The progress of a reader who comes afresh to a node, before anything else happens. -/
def arrival (story : Story) (p : Progress) (n : Node) : Progress :=
  { store := p.store.reset, route := { containers := story.graph.enclosingContainers n } }

theorem Descends.arrival_eq (h : story.Descends n child) (p : Progress) :
    story.arrival p child =
      (story.arrival p n).within (n :: story.graph.enclosingContainers n) := by
  rw [arrival, h.enclosing]
  rfl

/-- A jump to a container does what a jump to its first child does, unless it is cut off. -/
theorem Descends.outlasts_step (h : story.Descends n child) (s : Session) :
    Outlasts (story.step s (.jump n.id)) (story.step s (.jump child.id)) := by
  simp only [step, h.node?, h.child?]
  refine outlasts_bind ?_ fun _ _ => .rfl
  change Outlasts (story.enter (story.arrival s.progress n) n)
    (story.enter (story.arrival s.progress child) child)
  rw [h.arrival_eq]
  exact outlasts_enter_of_hopsTo (h.hopsTo _)

/-- A jump to the first child with a hop less allowed does what the jump to the container does,
unless it is cut off. -/
theorem Descends.outlasts_step_allowing (h : story.Descends n child) {budget : Nat}
    (hbudget : story.settings.maxAutoSteps = budget + 1) (s : Session) :
    Outlasts ((story.allowing budget).step s (.jump child.id)) (story.step s (.jump n.id)) := by
  have hchild : (story.allowing budget).graph.node? child.id = some child := h.child?
  simp only [step, h.node?, hchild]
  refine outlasts_bind ?_ fun _ _ => .rfl
  change Outlasts ((story.allowing budget).enter (story.arrival s.progress child) child)
    (story.enter (story.arrival s.progress n) n)
  rw [h.arrival_eq]
  exact outlasts_enter_succ_of_hopsTo hbudget (h.hopsTo _)

/-- In every session of every run, where no outline id occurs twice and no node lies around
itself, a jump to a container and a jump to its first child lead to the same session, and are
answered by the same display or the same fault, unless the jump to the container is cut off.
Whether it is depends on a single hop: a jump to the first child that is not cut off with a hop
less allowed does what the jump to the container does. -/
theorem transact_jump_container_of_reachable
    (hids : (document.outline.walk.map Outline.id).Nodup)
    (hacyclic : ∀ n, ¬story.graph.Around n n) (hs : Reachable document settings story s)
    (hn : n ∈ document.nodes) (hkind : story.graph.kindOf n = .container)
    (hchild : story.graph.firstChild? n = some child) :
    (∀ display after, (story.transact (.jump n.id)).run s = (.ok display, after) →
        (story.transact (.jump child.id)).run s = (.ok display, after)) ∧
      (∀ fault, ((story.transact (.jump n.id)).run s).1 = .error fault →
        (∀ node budget, fault ≠ .stepBudgetExceeded node budget) →
          (story.transact (.jump child.id)).run s = (.error fault, s)) ∧
      ∀ budget, settings.maxAutoSteps = budget + 1 →
        ¬CutOff (((story.allowing budget).transact (.jump child.id)).run s).1 →
          (story.transact (.jump n.id)).run s =
            ((story.allowing budget).transact (.jump child.id)).run s := by
  obtain ⟨first, triggers, hopened, -⟩ := hs
  obtain ⟨hg, rfl, -⟩ := ofDocument_eq_ok (opened_eq_ok_iff.mp hopened).1
  have hdescends := descends_of_firstChild? hg hids hacyclic hn hkind hchild
  have hjump := cutOff_or_transact_eq_of_outlasts (hdescends.outlasts_step s)
  refine ⟨?_, ?_, ?_⟩
  · intro display after hok
    rcases hjump with ⟨node, budget, hcut⟩ | heq
    · rw [hok] at hcut
      cases hcut
    · rw [heq, hok]
  · intro fault hfault hother
    rcases hjump with ⟨node, budget, hcut⟩ | heq
    · cases hfault.symm.trans hcut
      exact absurd rfl (hother node budget)
    · have hkept := run_transact_of_idle (.inr ⟨fault, hfault⟩)
      rw [heq]
      exact Prod.ext hfault hkept
  · intro budget hbudget hnone
    have hchildFirst := hdescends.outlasts_step_allowing hbudget s
    exact (cutOff_or_transact_eq_of_outlasts hchildFirst).resolve_left hnone

/-- From the end of the tour, a jump to the room leads to the bed with the room open, and so does
a jump to the bed. -/
theorem transact_jump_container_of_reachable_at_room :
    ∃ story first room bed after, opened crossroads {} = .ok (story, first) ∧
      room ∈ crossroads.nodes ∧ story.graph.kindOf room = .container ∧
      story.graph.firstChild? room = some bed ∧
      ((story.transact (.jump room.id)).run (story.run first tour).2) = (.ok after.display, after) ∧
      after.progress.route.position = .displaying bed ∧
      after.progress.route.containers = [room] ∧
      ((story.transact (.jump bed.id)).run (story.run first tour).2) =
        (.ok after.display, after) := by
  obtain ⟨story, first, room, bed, after, hopened, hroom, hkind, hchild, hjump, hposition,
      hcontainers⟩ :
    ∃ story first room bed after, opened crossroads {} = .ok (story, first) ∧
      crossroads.nodes[4]? = some room ∧ story.graph.kindOf room = .container ∧
      story.graph.firstChild? room = some bed ∧
      story.fire (story.run first tour).2 (.jump room.id) = (.ok after.display, after) ∧
      after.progress.route.position = .displaying bed ∧
      after.progress.route.containers = [room] :=
    ⟨_, _, _, _, _, rfl, rfl, rfl, rfl, rfl, rfl, rfl⟩
  have hgraph := (ofDocument_eq_ok (opened_eq_ok_iff.mp hopened).1).1
  have hacyclic := Graph.not_around_self_of_ids hgraph rfl (by decide)
  have hmem := List.mem_of_getElem? hroom
  rw [← run_transact] at hjump
  obtain ⟨hsame, -⟩ := transact_jump_container_of_reachable (by decide) hacyclic
    ⟨first, tour, hopened, rfl⟩ hmem hkind hchild
  exact ⟨story, first, room, bed, after, hopened, hmem, hkind, hchild, hjump, hposition,
    hcontainers, hsame _ _ hjump⟩

end Story

end Narrative
