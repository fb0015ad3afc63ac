import Narrative.Proofs.Session.Undo

/-!
The variables as a replay. The nodes that a session has visited are those of its
history and the one that is shown. The present variables are the declared ones with
the assignments of these nodes made, one node after another, and nothing else.
-/

namespace Narrative

/-- The nodes that have been visited: those moved past, and the one that is shown. -/
def Route.visited (r : Route) : List Node :=
  r.history ++ r.position.shown?.toList

namespace Graph

variable {g : Graph} {r : Route} {n : Node}

theorem replay_append_of_ne (h : g.kindOf n ≠ .instruction) (scope : Scope) (nodes : List Node) :
    g.replay scope (nodes ++ [n]) = g.replay scope nodes := by
  cases hfirst : g.replay scope nodes with
  | error cause =>
      unfold replay at hfirst ⊢
      rw [List.foldlM_append, hfirst]
      rfl
  | ok between => rw [replay_append hfirst, replay_singleton, visit_of_ne h]

theorem kindOf_ne_of_offering (h : g.Stands (.offering n)) : g.kindOf n ≠ .instruction := by
  intro hkind
  obtain ⟨-, hhub | ⟨-, hdialogue | hcontainer⟩⟩ := h
  · rw [hkind] at hhub
    cases hhub
  · rw [hkind] at hdialogue
    cases hdialogue
  · rw [hkind] at hcontainer
    cases hcontainer

/-- Moving past the node of a position visits nothing that had not been visited. -/
theorem replay_pass {scope : Scope} (hstands : g.Stands r.position)
    (hposition : r.position = g.returnPosition n) :
    g.replay scope (r.history ++ [n]) = g.replay scope r.visited := by
  unfold returnPosition at hposition
  split at hposition
  · rw [hposition] at hstands
    rw [replay_append_of_ne (kindOf_ne_of_offering hstands)]
    simp [Route.visited, hposition, Position.shown?]
  · simp [Route.visited, hposition, Position.shown?]

end Graph

namespace Story

variable {document : Document} {settings : Settings} {story : Story} {s : Session}
  {p q : Progress} {declared : Scope}

/-- A forward move makes the assignments of the nodes that it adds to the visited ones. -/
theorem Forward.replay_visited (h : Forward story p q)
    (hstands : story.graph.Stands p.route.position)
    (hp : story.graph.replay declared p.route.visited = .ok p.store.current) :
    story.graph.replay declared q.route.visited = .ok q.store.current := by
  cases h with
  | @departs n text isChoice skipped q hposition hdeparture =>
      have hleft : story.graph.replay declared (p.route.history ++ [n]) = .ok p.store.current := by
        rw [Graph.replay_pass hstands hposition, hp]
      have hvisited : q.route.visited =
          p.route.history ++ [n] ++ (skipped.toList ++ q.route.position.shown?.toList) := by
        rw [Route.visited, hdeparture.history]
        simp
      rw [hvisited, Graph.replay_append hleft, hdeparture.current]
  | @offers n hposition hmany hkind =>
      have hordinary : story.graph.kindOf n ≠ .instruction := by
        rw [hkind]
        decide
      have hbefore : p.route.visited = p.route.history ++ [n] := by
        simp [Route.visited, hposition, Position.shown?]
      rw [hbefore, Graph.replay_append_of_ne hordinary] at hp
      simpa [Route.visited, Route.standAt, Position.shown?] using hp

/-- In every session of every run, the present variables are the declared ones with the
assignments of every visited instruction made, in order and once for each visit; every
one of these instructions can be read. -/
theorem current_eq_replay (h : Reachable document settings story s) :
    story.graph.replay (Store.ofNamespaces document.namespaces).initial s.progress.route.visited =
        .ok s.progress.store.current ∧
      ∀ n ∈ s.progress.route.visited, story.graph.kindOf n = .instruction →
        ∃ assigned, Script.assignments n.expression = .ok assigned := by
  have hreplay : story.graph.replay (Store.ofNamespaces document.namespaces).initial
      s.progress.route.visited = .ok s.progress.store.current := by
    refine (Reachable.keeps_forward (P := fun s => story.graph.replay
      (Store.ofNamespaces document.namespaces).initial s.progress.route.visited =
        .ok s.progress.store.current) ?_ ?_ h).2
    · intro p n q after hn hinitial hq hshown
      obtain ⟨hhistory, -, -, hcurrent, -⟩ := reenter_eq_ok hn hq
      rw [(shown_eq_ok hshown).1, Route.visited, hhistory, List.nil_append, ← hinitial]
      exact hcurrent
    · intro s q after hs hkept hforward hshown
      rw [(shown_eq_ok hshown).1]
      exact hforward.replay_visited hs.stands hkept
  refine ⟨hreplay, ?_⟩
  intro n hmem hkind
  exact Graph.assignments_of_replay hreplay hmem hkind

theorem current_eq_replay_of_tour :
    ∃ story first, opened crossroads {} = .ok (story, first) ∧
      (story.run first tour).2.progress.route.visited.map Node.id =
        ["gate", "hub", "key", "bed", "hub"] ∧
      story.graph.replay (Store.ofNamespaces crossroads.namespaces).initial
          (story.run first tour).2.progress.route.visited =
        .ok (story.run first tour).2.progress.store.current := by
  have hopened : opened crossroads {} = .ok (_, _) := rfl
  exact ⟨_, _, hopened, rfl, (current_eq_replay ⟨_, tour, hopened, rfl⟩).1⟩

end Story

end Narrative
