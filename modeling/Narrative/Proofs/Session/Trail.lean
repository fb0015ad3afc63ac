import Narrative.Proofs.Session.Replay

/-!
The way back. The history and the checkpoints are two accounts of one way: a checkpoint is
made for each departure, and a departure moves past the node that is left and, it may be, past
a chosen node behind it. Read from the oldest to the newest, the checkpoints give the history,
and each of them keeps how far the reader had come and with which variables.
-/

namespace Narrative

/-- The nodes that were moved past at a departure. -/
def Checkpoint.passed (c : Checkpoint) : List Node :=
  c.node :: c.skipped.toList

/-- The nodes that were moved past at the departures of checkpoints, oldest first. -/
def trail (checkpoints : List Checkpoint) : List Node :=
  checkpoints.reverse.flatMap Checkpoint.passed

theorem trail_append (newer older : List Checkpoint) :
    trail (newer ++ older) = trail older ++ trail newer := by
  simp [trail]

theorem trail_cons (c : Checkpoint) (older : List Checkpoint) :
    trail (c :: older) = trail older ++ c.passed := by
  simp [trail]

theorem trail_prefix {older checkpoints : List Checkpoint} (h : older <:+ checkpoints) :
    trail older <+: trail checkpoints := by
  obtain ⟨newer, rfl⟩ := h
  exact ⟨trail newer, (trail_append newer older).symm⟩

/-- The checkpoints of a way: each keeps the number of nodes moved past before it, and the
declared variables as they are after the visits to these and to its own node. -/
def Charts (g : Graph) (declared : Scope) (checkpoints : List Checkpoint) : Prop :=
  ∀ c older, (c :: older) <:+ checkpoints →
    c.depth = (trail older).length ∧
      g.replay declared (trail older ++ [c.node]) = .ok c.snapshot

namespace Charts

variable {g : Graph} {declared : Scope} {checkpoints : List Checkpoint} {c : Checkpoint}

theorem nil : Charts g declared [] := by
  intro c older hsuffix
  cases List.suffix_nil.mp hsuffix

theorem cons (h : Charts g declared checkpoints) (hdepth : c.depth = (trail checkpoints).length)
    (hsnapshot : g.replay declared (trail checkpoints ++ [c.node]) = .ok c.snapshot) :
    Charts g declared (c :: checkpoints) := by
  intro other older hsuffix
  rcases List.suffix_cons_iff.mp hsuffix with heq | hsuffix
  · cases heq
    exact ⟨hdepth, hsnapshot⟩
  · exact h other older hsuffix

theorem depth_lt (h : Charts g declared checkpoints) (hmem : c ∈ checkpoints) :
    c.depth < (trail checkpoints).length := by
  obtain ⟨newer, older, rfl⟩ := List.append_of_mem hmem
  rw [(h c older (List.suffix_append newer _)).1, trail_append, trail_cons]
  simp [Checkpoint.passed]

theorem pairwise_depth (h : Charts g declared checkpoints) :
    checkpoints.Pairwise fun newer older => older.depth < newer.depth := by
  induction checkpoints with
  | nil => exact .nil
  | cons c older ih =>
      have holder : Charts g declared older := by
        intro other others hsuffix
        exact h other others (hsuffix.trans (List.suffix_cons c older))
      refine List.pairwise_cons.mpr ⟨?_, ih holder⟩
      intro other hmem
      rw [(h c older List.suffix_rfl).1]
      exact holder.depth_lt hmem

end Charts

namespace Story

variable {document : Document} {settings : Settings} {story : Story} {s : Session}
  {p q : Progress} {declared : Scope}

/-- The progress of a reader whose history and checkpoints are accounts of one way. -/
structure Tracked (story : Story) (declared : Scope) (p : Progress) : Prop where
  initial : p.store.initial = declared
  current : story.graph.replay declared p.route.visited = .ok p.store.current
  history : p.route.history = trail p.route.checkpoints
  charts : Charts story.graph declared p.route.checkpoints

theorem tracked_of_reenter {n : Node} (hn : story.graph.Holds n)
    (hp : p.store.initial = declared) (h : story.reenter p n = .ok q) :
    story.Tracked declared q := by
  obtain ⟨hhistory, hcheckpoints, hinitial, hcurrent, -⟩ := reenter_eq_ok hn h
  refine ⟨hinitial.trans hp, ?_, ?_, ?_⟩
  · rw [Route.visited, hhistory, List.nil_append, ← hp]
    exact hcurrent
  · rw [hhistory, hcheckpoints]
    rfl
  · rw [hcheckpoints]
    exact Charts.nil

/-- A departure adds the nodes moved past to the history, and a checkpoint for them. -/
theorem Tracked.forward (h : story.Tracked declared p)
    (hstands : story.graph.Stands p.route.position) (hq : Forward story p q) :
    story.Tracked declared q := by
  refine ⟨hq.initial_eq.trans h.initial, hq.replay_visited hstands h.current, ?_, ?_⟩
  · cases hq with
    | departs hposition hdeparture =>
        rw [hdeparture.history, hdeparture.checkpoints, h.history]
        simp only [Progress.leave, trail_cons, Checkpoint.passed]
    | offers hposition hmany hkind => exact h.history
  · cases hq with
    | departs hposition hdeparture =>
        rw [hdeparture.checkpoints]
        refine h.charts.cons ?_ ?_
        · rw [← h.history]
        · rw [← h.history, Graph.replay_pass hstands hposition, h.current]
    | offers hposition hmany hkind => exact h.charts

theorem Reachable.tracked (h : Reachable document settings story s) :
    story.Tracked (Store.ofNamespaces document.namespaces).initial s.progress := by
  refine (Reachable.keeps_forward (P := fun s =>
    story.Tracked (Store.ofNamespaces document.namespaces).initial s.progress) ?_ ?_ h).2
  · intro p n q after hn hinitial hq hshown
    rw [(shown_eq_ok hshown).1]
    exact tracked_of_reenter hn hinitial hq
  · intro s q after hs htracked hforward hshown
    rw [(shown_eq_ok hshown).1]
    exact htracked.forward hs.stands hforward

/-- In every session of every run, the checkpoints from the oldest to the newest give the
history. Each keeps the number of nodes that those before it give, which grows from one to the
next and stays below the length of the history; and it keeps the declared variables with the
assignments of every instruction among these nodes, and of its own, made. -/
theorem history_eq_trail (h : Reachable document settings story s) :
    s.progress.store.initial = (Store.ofNamespaces document.namespaces).initial ∧
      s.progress.route.history = trail s.progress.route.checkpoints ∧
      (s.progress.route.checkpoints.Pairwise fun newer older => older.depth < newer.depth) ∧
      ∀ c older, (c :: older) <:+ s.progress.route.checkpoints →
        c.depth = (trail older).length ∧ c.depth < s.progress.route.history.length ∧
          s.progress.route.history.take c.depth = trail older ∧
          story.graph.replay s.progress.store.initial
              (s.progress.route.history.take c.depth ++ [c.node]) = .ok c.snapshot := by
  have htracked := h.tracked
  refine ⟨htracked.initial, htracked.history, htracked.charts.pairwise_depth, ?_⟩
  intro c older hsuffix
  obtain ⟨hdepth, hsnapshot⟩ := htracked.charts c older hsuffix
  have htake : s.progress.route.history.take c.depth = trail older := by
    have holder := trail_prefix ((List.suffix_cons c older).trans hsuffix)
    rw [htracked.history, hdepth, ← List.prefix_iff_eq_take.mp holder]
  refine ⟨hdepth, ?_, htake, ?_⟩
  · rw [htracked.history]
    exact htracked.charts.depth_lt (hsuffix.subset (by simp))
  · rw [htake, htracked.initial, hsnapshot]

theorem history_eq_trail_of_tour :
    ∃ story first, opened crossroads {} = .ok (story, first) ∧
      (story.run first tour).2.progress.route.checkpoints.map
          (fun c => (c.node.id, c.skipped.map Node.id, c.depth)) =
        [("hub", none, 4), ("bed", none, 3), ("hub", some "key", 1), ("gate", none, 0)] ∧
      (story.run first tour).2.progress.route.history =
        trail (story.run first tour).2.progress.route.checkpoints := by
  have hopened : opened crossroads {} = .ok (_, _) := rfl
  exact ⟨_, _, hopened, rfl, (history_eq_trail ⟨_, tour, hopened, rfl⟩).2.1⟩

end Story

end Narrative
