import Narrative.Proofs.Session.Trail
import Narrative.Proofs.Session.Transaction

/-!
Forgetting. A fresh entry at a node, by a jump or a restart, makes use of nothing that the reader
has done before: variables that were changed or made, containers that are open, the history and
the checkpoints. All that it takes over are the declared variables, and these are the same in
every session of every run. So a restart cannot fail where the start has not, and brings back the
very session of the start.
-/

namespace Narrative

namespace Story

variable {document : Document} {settings : Settings} {story : Story} {first s other : Session}

/-- A fresh entry depends on the declared variables only. -/
theorem reenter_congr {p q : Progress} (h : p.store.initial = q.store.initial) (n : Node) :
    story.reenter p n = story.reenter q n := by
  unfold reenter Store.reset
  rw [h]

theorem step_restart_of_reachable (hopened : opened document settings = .ok (story, first))
    (hs : Reachable document settings story s) : story.step s .restart = .ok first := by
  obtain ⟨hstory, hopening⟩ := opened_eq_ok_iff.mp hopened
  have hdocument := Graph.document_of_ofDocument (ofDocument_eq_ok hstory).1
  obtain ⟨q, hq, hshown⟩ := opening_eq_ok hopening
  have hsame : story.reenter s.progress story.start = .ok q := by
    rw [← hq]
    apply reenter_congr
    rw [hs.tracked.initial, hdocument]
  exact Outcome.bind_eq_ok_iff.mpr ⟨q, hsame, hshown⟩

theorem route_of_opened (hopened : opened document settings = .ok (story, first)) :
    first.progress.route.history = [] ∧ first.progress.route.checkpoints = [] := by
  obtain ⟨hstory, hopening⟩ := opened_eq_ok_iff.mp hopened
  obtain ⟨q, hq, hshown⟩ := opening_eq_ok hopening
  obtain ⟨hhistory, hcheckpoints, -, -, -⟩ := reenter_eq_ok (holds_start hstory) hq
  rw [(shown_eq_ok hshown).1]
  exact ⟨hhistory, hcheckpoints⟩

/-- A jump to a node does the same wherever the reader comes from. -/
theorem step_jump_of_reachable (hs : Reachable document settings story s)
    (hother : Reachable document settings story other) {n : Node} (hn : n ∈ document.nodes) :
    story.step s (.jump n.id) = story.step other (.jump n.id) := by
  have hopened := hs
  obtain ⟨first, triggers, hopened, -⟩ := hopened
  have hgraph := (ofDocument_eq_ok (opened_eq_ok_iff.mp hopened).1).1
  have hnode : story.graph.node? n.id = some n := (Graph.node?_eq_some_iff hgraph).mpr ⟨hn, rfl⟩
  have hinitial : s.progress.store.initial = other.progress.store.initial := by
    rw [hs.tracked.initial, hother.tracked.initial]
  simp only [step, hnode, reenter_congr hinitial]

/-- The trigger is answered alike in two sessions, by the same fault, which leaves each session
as it was, or by a display, and then leads from both to the same session. -/
def Converges (story : Story) (t : Trigger) (s other : Session) : Prop :=
  (∃ fault, (story.transact t).run s = (.error fault, s) ∧
      (story.transact t).run other = (.error fault, other)) ∨
    ∃ after, (story.transact t).run s = (.ok after.display, after) ∧
      (story.transact t).run other = (.ok after.display, after)

theorem converges_of_step_eq {t : Trigger} (h : story.step s t = story.step other t) :
    story.Converges t s other := by
  unfold Converges
  simp only [run_transact]
  cases hstep : story.step s t with
  | error fault => exact .inl ⟨fault, fire_of_error hstep, fire_of_error (h.symm.trans hstep)⟩
  | ok after => exact .inr ⟨after, fire_of_ok hstep, fire_of_ok (h.symm.trans hstep)⟩

/-- In every session of every run, a restart succeeds and leads to the session of the start, with
no history and nothing to go back to; and a jump to a node of the document is answered by the
same fault, or leads to the same session, as from any other session of any run. -/
theorem restart_and_jump_of_reachable (hopened : opened document settings = .ok (story, first)) :
    first.progress.route.history = [] ∧ first.progress.route.checkpoints = [] ∧
      ∀ s, Reachable document settings story s →
        (story.transact .restart).run s = (.ok first.display, first) ∧
          ∀ other, Reachable document settings story other →
            ∀ n ∈ document.nodes, story.Converges (.jump n.id) s other := by
  obtain ⟨hhistory, hcheckpoints⟩ := route_of_opened hopened
  refine ⟨hhistory, hcheckpoints, ?_⟩
  intro s hs
  refine ⟨?_, ?_⟩
  · rw [run_transact, fire_of_ok (step_restart_of_reachable hopened hs)]
  · intro other hother n hn
    exact converges_of_step_eq (step_jump_of_reachable hs hother hn)

/-- From the end of the tour a restart leads back to the gate, and a jump to the bed leads where
it leads from there. -/
theorem restart_and_jump_of_reachable_of_tour :
    ∃ story first n, opened crossroads {} = .ok (story, first) ∧ n ∈ crossroads.nodes ∧
      n.id = "bed" ∧
      (story.run first tour).2.progress.route.history.map Node.id =
        ["gate", "hub", "key", "bed", "hub"] ∧
      (story.transact .restart).run (story.run first tour).2 = (.ok first.display, first) ∧
      story.Converges (.jump n.id) (story.run first tour).2 first := by
  obtain ⟨story, first, n, hopened, hmem, hid, hhistory⟩ : ∃ story first n,
      opened crossroads {} = .ok (story, first) ∧ crossroads.nodes[5]? = some n ∧ n.id = "bed" ∧
        (story.run first tour).2.progress.route.history.map Node.id =
          ["gate", "hub", "key", "bed", "hub"] := ⟨_, _, _, rfl, rfl, rfl, rfl⟩
  obtain ⟨-, -, hall⟩ := restart_and_jump_of_reachable hopened
  obtain ⟨hrestart, hjump⟩ := hall (story.run first tour).2 ⟨first, tour, hopened, rfl⟩
  have hn := List.mem_of_getElem? hmem
  exact ⟨story, first, n, hopened, hn, hid, hhistory, hrestart,
    hjump first ⟨first, [], hopened, rfl⟩ n hn⟩

end Story

end Narrative
