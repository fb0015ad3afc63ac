import Narrative.Proofs.Session.Rest
import Narrative.Proofs.Session.Run

/-!
What the moves of a reader do to the progress. Coming to a node changes the position
and the open containers, and performs an instruction that the reader comes to rest
at. Leaving a node puts it on the history and makes a checkpoint for it. Nothing else
is touched: this is said here once, for each of the ways to move.
-/

namespace Narrative

/-- The node that is shown at a position. -/
def Position.shown? : Position → Option Node
  | .displaying n => some n
  | _ => none

@[simp] theorem Progress.store_leave (p : Progress) (n : Node) (text : String) (isChoice : Bool)
    (skipped : Option Node) : (p.leave n text isChoice skipped).store = p.store := rfl

namespace Graph

/-- The variables after a visit to a node: an instruction makes its assignments, and
any other node changes nothing. -/
def visit (g : Graph) (scope : Scope) (n : Node) : Except Script.LineError Scope :=
  if g.kindOf n = .instruction then (Script.assignments n.expression).map scope.merge
  else .ok scope

def replay (g : Graph) (scope : Scope) (nodes : List Node) : Except Script.LineError Scope :=
  nodes.foldlM g.visit scope

variable {g : Graph}

@[simp] theorem replay_singleton (scope : Scope) (n : Node) :
    g.replay scope [n] = g.visit scope n := by
  simp only [replay, List.foldlM_cons, List.foldlM_nil]
  cases g.visit scope n <;> rfl

theorem replay_append {scope between : Scope} {first : List Node}
    (h : g.replay scope first = .ok between) (others : List Node) :
    g.replay scope (first ++ others) = g.replay between others := by
  unfold replay at h ⊢
  rw [List.foldlM_append, h]
  rfl

theorem visit_of_ne {scope : Scope} {n : Node} (h : g.kindOf n ≠ .instruction) :
    g.visit scope n = .ok scope := by
  simp [visit, h]

theorem assignments_of_replay {scope last : Scope} {nodes : List Node}
    (h : g.replay scope nodes = .ok last) {n : Node} (hmem : n ∈ nodes)
    (hkind : g.kindOf n = .instruction) :
    ∃ assigned, Script.assignments n.expression = .ok assigned := by
  induction nodes generalizing scope with
  | nil => cases hmem
  | cons first nodes ih =>
      simp only [replay, List.foldlM_cons] at h
      obtain ⟨between, hfirst, hothers⟩ := Outcome.bind_eq_ok_iff.mp h
      rcases List.mem_cons.mp hmem with rfl | hmem
      · rw [visit, if_pos hkind] at hfirst
        obtain ⟨assigned, hassigned, -⟩ := Outcome.map_eq_ok_iff.mp hfirst
        exact ⟨assigned, hassigned⟩
      · exact ih hothers hmem

/-- What a move leaves of the progress before it where the reader departs from a node:
the node and those passed by after it are on the history, and a checkpoint is made. -/
structure Departure (g : Graph) (p : Progress) (n : Node) (text : String) (isChoice : Bool)
    (skipped : Option Node) (q : Progress) : Prop where
  checkpoints : q.route.checkpoints = (p.leave n text isChoice skipped).route.checkpoints
  history : q.route.history = p.route.history ++ n :: skipped.toList
  initial : q.store.initial = p.store.initial
  current : g.replay p.store.current (skipped.toList ++ q.route.position.shown?.toList) =
    .ok q.store.current
  stands : g.Stands q.route.position

end Graph

namespace Story

variable {story : Story} {p q : Progress} {n : Node}

theorem perform_eq_ok (h : p.perform n = .ok q) :
    ∃ assigned, Script.assignments n.expression = .ok assigned ∧
      q = { p with store := p.store.assign assigned } := by
  obtain ⟨assigned, hassigned, rfl⟩ := Outcome.map_eq_ok_iff.mp h
  exact ⟨assigned, Fault.ofScript_eq_ok_iff.mp hassigned, rfl⟩

theorem visit_of_perform
    (h : (if story.graph.kindOf n = .instruction then p.perform n else .ok p) = .ok q) :
    story.graph.visit p.store.current n = .ok q.store.current ∧
      q.store.initial = p.store.initial ∧ q.route = p.route := by
  split at h
  · rename_i hkind
    obtain ⟨assigned, hassigned, rfl⟩ := perform_eq_ok h
    rw [Graph.visit, if_pos hkind, hassigned]
    exact ⟨rfl, rfl, rfl⟩
  · rename_i hkind
    cases h
    exact ⟨Graph.visit_of_ne hkind, rfl, rfl⟩

theorem enter_eq_ok (h : story.enter p n = .ok q) :
    ∃ position containers,
      story.graph.settle p.store story.settings.maxAutoSteps p.route.containers n =
        .ok (position, containers) ∧
      q.route = { p.route with position, containers } ∧
      q.store.initial = p.store.initial ∧
      story.graph.replay p.store.current position.shown?.toList = .ok q.store.current := by
  obtain ⟨⟨position, containers⟩, hsettle, hrest⟩ := Outcome.bind_eq_ok_iff.mp h
  refine ⟨position, containers, hsettle, ?_⟩
  cases position with
  | displaying shown =>
      obtain ⟨hvisit, hinitial, hroute⟩ := visit_of_perform hrest
      exact ⟨hroute, hinitial, by simpa [Position.shown?] using hvisit⟩
  | offering offering =>
      cases hrest
      exact ⟨rfl, rfl, rfl⟩
  | ended =>
      cases hrest
      exact ⟨rfl, rfl, rfl⟩

theorem enter_keeps (hn : story.graph.Holds n) (h : story.enter p n = .ok q) :
    q.route.history = p.route.history ∧ q.route.checkpoints = p.route.checkpoints ∧
      q.store.initial = p.store.initial ∧
      story.graph.replay p.store.current q.route.position.shown?.toList = .ok q.store.current ∧
      story.graph.Stands q.route.position := by
  obtain ⟨position, containers, hsettle, hroute, hinitial, hreplay⟩ := enter_eq_ok h
  rw [hroute]
  exact ⟨rfl, rfl, hinitial, hreplay, Graph.stands_of_settle hn hsettle⟩

/-- Going on from a shown node: the reader departs over the only edge or to the end, or
several edges are put on offer. -/
theorem advanceFrom_eq_ok (hkind : (story.graph.kindOf n).isDisplayed = true)
    (h : story.advanceFrom p n = .ok q) :
    (n.edgeCount ≤ 1 ∧
        story.graph.Departure p n (n.summary (story.graph.kindOf n)) false none q) ∨
      (1 < n.edgeCount ∧ story.graph.kindOf n = .dialogue ∧
        q = { p with route := p.route.standAt (.offering n) }) := by
  unfold advanceFrom at h
  simp only at h
  split at h
  · cases h
  · rename_i hedge
    split at h
    · rename_i hedges
      cases h
      exact .inl ⟨by simp [Node.edgeCount, hedges], rfl, rfl, rfl, rfl, trivial⟩
    · rename_i edge hedges
      obtain ⟨next, hnext, henter⟩ := Outcome.bind_eq_ok_iff.mp h
      obtain ⟨hhistory, hcheckpoints, hinitial, hreplay, hstands⟩ :=
        enter_keeps (Graph.holds_of_resolve hnext) henter
      exact .inl ⟨by simp [Node.edgeCount, hedges],
        ⟨hcheckpoints, hhistory, hinitial, hreplay, hstands⟩⟩
    · rename_i hnone hone
      cases h
      have hmany : 1 < n.edgeCount := Node.one_lt_edgeCount hnone hone
      refine .inr ⟨hmany, ?_, rfl⟩
      cases hcase : story.graph.kindOf n <;> simp_all [Kind.isDisplayed]

/-- A chosen node is passed by, performed if it is an instruction, where it could be shown and
has a single edge; otherwise the reader comes to it. -/
theorem choose_cases {offering target : Node} {text : String}
    (h : story.choose p offering target text = .ok q) :
    (∃ edge next performed, (story.graph.kindOf target).isDisplayed = true ∧
        target.edges = [edge] ∧ story.graph.resolve target edge = .ok next ∧
        (if story.graph.kindOf target = .instruction then
            (p.leave offering text true (some target)).perform target
          else .ok (p.leave offering text true (some target))) = .ok performed ∧
        story.enter { performed with route := performed.route.pass target } next = .ok q) ∨
      story.enter (p.leave offering text true none) target = .ok q := by
  unfold choose at h
  simp only at h
  split at h
  · rename_i edge hdisplayed hedges
    obtain ⟨next, hnext, hrest⟩ := Outcome.bind_eq_ok_iff.mp h
    have hvisited : (if story.graph.kindOf target = .instruction then
          (p.leave offering text true (some target)).perform target
        else .ok (p.leave offering text true (some target))) >>= (fun performed =>
          story.enter { performed with route := performed.route.pass target } next) = .ok q := by
      rw [← hrest]
      split <;> rfl
    obtain ⟨performed, hperformed, henter⟩ := Outcome.bind_eq_ok_iff.mp hvisited
    exact .inl ⟨edge, next, performed, hdisplayed, hedges, hnext, hperformed, henter⟩
  · exact .inr h

/-- Taking a choice: the reader departs from the offering node, and the chosen node is
passed by or come to. -/
theorem choose_eq_ok {offering target : Node} {text : String} (htarget : story.graph.Holds target)
    (h : story.choose p offering target text = .ok q) :
    ∃ skipped, (skipped = none ∨ skipped = some target) ∧
      story.graph.Departure p offering text true skipped q := by
  rcases choose_cases h with ⟨edge, next, performed, -, -, hnext, hperformed, henter⟩ | henter
  · obtain ⟨hvisit, hkept, hroute⟩ := visit_of_perform hperformed
    obtain ⟨hhistory, hcheckpoints, hinitial, hreplay, hstands⟩ :=
      enter_keeps (Graph.holds_of_resolve hnext) henter
    refine ⟨some target, .inr rfl, ?_, ?_, hinitial.trans hkept, ?_, hstands⟩
    · rw [hcheckpoints, hroute]
      rfl
    · rw [hhistory, hroute]
      simp [Route.pass, Progress.leave]
    · have hfirst : story.graph.replay p.store.current [target] = .ok performed.store.current := by
        simpa using hvisit
      exact (Graph.replay_append hfirst _).trans hreplay
  · obtain ⟨hhistory, hcheckpoints, hinitial, hreplay, hstands⟩ := enter_keeps htarget henter
    exact ⟨none, .inl rfl, hcheckpoints, hhistory, hinitial, hreplay, hstands⟩

theorem reenter_eq_ok (hn : story.graph.Holds n) (h : story.reenter p n = .ok q) :
    q.route.history = [] ∧ q.route.checkpoints = [] ∧ q.store.initial = p.store.initial ∧
      story.graph.replay p.store.initial q.route.position.shown?.toList = .ok q.store.current ∧
      story.graph.Stands q.route.position :=
  enter_keeps hn h

end Story

end Narrative
