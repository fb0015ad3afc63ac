import Mathlib.Data.List.Forall2
import Narrative.Proofs.Script.Guard
import Narrative.Proofs.Session.Likeness
import Narrative.Proofs.Session.Undo

/-!
Two readers in lockstep. The variables steer a narrative only through the guards and the
lines of conditions. Readers whose variables agree wherever these look are led the same
way by the same triggers and are shown the same, and their variables go on agreeing there.
-/

namespace Narrative

namespace Graph

/-- The variables that the guards and the lines of the conditions ask about. -/
def readPaths (g : Graph) : List (List String) :=
  g.document.nodes.flatMap fun n =>
    Script.guardPaths n.guardText ++
      if g.kindOf n = .condition then Script.guardPaths (String.ofList n.conditionLine) else []

section Agreement

variable {g : Graph} {store other : Store} {n : Node} (hg : ofDocument g.document = .ok g)
  (hagree : Scope.AgreeOn g.readPaths store.current other.current)

include hg hagree

theorem conditionHolds_eq (hn : g.Holds n) (hkind : g.kindOf n = .condition) :
    n.conditionHolds store = n.conditionHolds other := by
  have hpaths : Script.guardPaths (String.ofList n.conditionLine) ⊆ g.readPaths := by
    intro path hpath
    apply List.mem_flatMap.mpr
    refine ⟨n, (holds_iff hg).mp hn, ?_⟩
    rw [if_pos hkind]
    exact List.mem_append_right _ hpath
  simp only [Node.conditionHolds, Script.guardHolds_of_agreeOn hpaths hagree]

theorem admits_eq (hn : g.Holds n) : admits store n = admits other n := by
  have hpaths : Script.guardPaths n.guardText ⊆ g.readPaths := by
    intro path hpath
    apply List.mem_flatMap.mpr
    exact ⟨n, (holds_iff hg).mp hn, List.mem_append_left _ hpath⟩
  simp only [admits, Script.guardHolds_of_agreeOn hpaths hagree]

theorem hop_eq (hn : g.Holds n) (containers : List Node) :
    g.hop store containers n = g.hop other containers n := by
  unfold hop
  cases hkind : g.kindOf n with
  | condition => simp only [branchTarget, conditionHolds_eq hg hagree hn hkind]
  | _ => rfl

theorem settleWithin_eq (hn : g.Holds n) (budget left : Nat) (containers : List Node) :
    g.settleWithin store budget left containers n =
      g.settleWithin other budget left containers n := by
  induction left generalizing containers n with
  | zero => simp only [settleWithin, hop_eq hg hagree hn]
  | succ left ih =>
      simp only [settleWithin, ← hop_eq hg hagree hn]
      split
      · rfl
      · rfl
      · rename_i next after hhop
        exact ih (holds_of_hop hhop) after

theorem edgeChoice_eq (n : Node) (edge : Edge) (index : Nat) :
    g.edgeChoice store n edge index = g.edgeChoice other n edge index := by
  unfold edgeChoice
  cases htarget : g.resolve n edge with
  | error fault => rfl
  | ok target =>
      have hadmits := admits_eq hg hagree (holds_of_resolve htarget)
      simp only [bind, Except.bind, hadmits]

theorem choices_eq (hn : g.Holds n) : g.choices store n = g.choices other n := by
  unfold choices
  split
  · rename_i hkind
    simp only [conditionChoices, conditionHolds_eq hg hagree hn hkind]
  · simp only [edgeChoice_eq hg hagree]

end Agreement

end Graph

/-- The checkpoint without the variables that it keeps. -/
def Checkpoint.withoutSnapshot (c : Checkpoint) : Checkpoint :=
  { c with snapshot := .empty }

def Route.withoutSnapshots (r : Route) : Route :=
  { r with checkpoints := r.checkpoints.map Checkpoint.withoutSnapshot }

/-- Checkpoints that are the same but for the variables they keep, which agree. -/
structure Checkpoint.InStep (paths : List (List String)) (c other : Checkpoint) : Prop where
  rest : c.withoutSnapshot = other.withoutSnapshot
  snapshot : Scope.AgreeOn paths c.snapshot other.snapshot

/-- The same progress but for the variables, which agree along the given paths, now and
in the past. -/
structure Progress.InStep (paths : List (List String)) (p other : Progress) : Prop where
  current : Scope.AgreeOn paths p.store.current other.store.current
  initial : Scope.AgreeOn paths p.store.initial other.store.initial
  position : p.route.position = other.route.position
  history : p.route.history = other.route.history
  containers : p.route.containers = other.route.containers
  checkpoints : List.Forall₂ (Checkpoint.InStep paths) p.route.checkpoints other.route.checkpoints

namespace Progress

variable {paths : List (List String)} {p other : Progress}

theorem InStep.standAt (h : InStep paths p other) (position : Position) :
    InStep paths { p with route := p.route.standAt position }
      { other with route := other.route.standAt position } :=
  ⟨h.current, h.initial, rfl, h.history, h.containers, h.checkpoints⟩

theorem InStep.pass (h : InStep paths p other) (n : Node) :
    InStep paths { p with route := p.route.pass n } { other with route := other.route.pass n } := by
  refine ⟨h.current, h.initial, h.position, ?_, h.containers, h.checkpoints⟩
  simp only [Route.pass, h.history]

theorem InStep.leave (h : InStep paths p other) (n : Node) (text : String) (isChoice : Bool)
    (skipped : Option Node) :
    InStep paths (p.leave n text isChoice skipped) (other.leave n text isChoice skipped) := by
  obtain ⟨hcurrent, hinitial, hposition, hhistory, hcontainers, hcheckpoints⟩ := h.pass n
  refine ⟨hcurrent, hinitial, hposition, hhistory, hcontainers, ?_⟩
  refine .cons ⟨?_, h.current⟩ h.checkpoints
  simp only [Checkpoint.withoutSnapshot, h.history, h.containers]

theorem InStep.perform (h : InStep paths p other) (n : Node) :
    Outcome.Same (InStep paths) (p.perform n) (other.perform n) := by
  apply Outcome.same_map Outcome.same_rfl
  rintro assigned _ rfl
  exact ⟨h.current.merge assigned, h.initial, h.position, h.history, h.containers, h.checkpoints⟩

end Progress

structure Session.InStep (paths : List (List String)) (s other : Session) : Prop where
  progress : Progress.InStep paths s.progress other.progress
  display : s.display = other.display

/-- The same flow: the same is shown, and the routes are the same but for the variables
that the checkpoints keep. -/
def Session.SameFlow (s other : Session) : Prop :=
  s.display = other.display ∧
    s.progress.route.withoutSnapshots = other.progress.route.withoutSnapshots

theorem Session.InStep.sameFlow {paths : List (List String)} {s other : Session}
    (h : Session.InStep paths s other) : s.SameFlow other := by
  have hcheckpoints : s.progress.route.checkpoints.map Checkpoint.withoutSnapshot =
      other.progress.route.checkpoints.map Checkpoint.withoutSnapshot := by
    have hlist := h.progress.checkpoints
    generalize s.progress.route.checkpoints = checkpoints at hlist ⊢
    generalize other.progress.route.checkpoints = others at hlist ⊢
    induction hlist with
    | nil => rfl
    | cons hfirst _ ih => rw [List.map_cons, List.map_cons, hfirst.rest, ih]
  refine ⟨h.display, ?_⟩
  rw [Route.withoutSnapshots, Route.withoutSnapshots, h.progress.position, h.progress.history,
    h.progress.containers, hcheckpoints]

namespace Story

section Moves

variable {story : Story} {p other q : Progress} {n : Node}
  (hg : Graph.ofDocument story.graph.document = .ok story.graph)
  (h : Progress.InStep story.graph.readPaths p other)

include hg h

theorem same_enter (hn : story.graph.Holds n) :
    Outcome.Same (Progress.InStep story.graph.readPaths) (story.enter p n)
      (story.enter other n) := by
  have hsettle : story.graph.settle p.store story.settings.maxAutoSteps p.route.containers n =
      story.graph.settle other.store story.settings.maxAutoSteps other.route.containers n := by
    rw [h.containers]
    exact Graph.settleWithin_eq hg h.current hn _ _ _
  unfold enter
  rw [hsettle]
  apply Outcome.same_bind_of_eq
  rintro ⟨position, containers⟩ -
  have hcome : Progress.InStep story.graph.readPaths
      { p with route := { p.route with position, containers } }
      { other with route := { other.route with position, containers } } :=
    ⟨h.current, h.initial, rfl, h.history, rfl, h.checkpoints⟩
  cases position with
  | displaying shown =>
      dsimp only
      split
      · exact hcome.perform shown
      · exact hcome
  | offering offering => exact hcome
  | ended => exact hcome

theorem same_reenter (hn : story.graph.Holds n) :
    Outcome.Same (Progress.InStep story.graph.readPaths) (story.reenter p n)
      (story.reenter other n) := by
  apply same_enter hg _ hn
  exact ⟨h.initial, h.initial, rfl, rfl, rfl, .nil⟩

theorem same_advanceFrom (n : Node) :
    Outcome.Same (Progress.InStep story.graph.readPaths) (story.advanceFrom p n)
      (story.advanceFrom other n) := by
  unfold advanceFrom
  dsimp only
  split
  · exact rfl
  · split
    · exact (h.leave n _ false none).standAt .ended
    · rename_i edge _
      apply Outcome.same_bind_of_eq
      intro next hnext
      exact same_enter hg (h.leave n _ false none) (Graph.holds_of_resolve hnext)
    · exact h.standAt (.offering n)

theorem same_choose {target : Node} (htarget : story.graph.Holds target) (offering : Node)
    (text : String) :
    Outcome.Same (Progress.InStep story.graph.readPaths) (story.choose p offering target text)
      (story.choose other offering target text) := by
  unfold choose
  dsimp only
  split
  · apply Outcome.same_bind_of_eq
    intro next hnext
    have hleft := h.leave offering text true (some target)
    have henter {performed performedOther : Progress}
        (h : Progress.InStep story.graph.readPaths performed performedOther) :
        Outcome.Same (Progress.InStep story.graph.readPaths)
          (story.enter { performed with route := performed.route.pass target } next)
          (story.enter { performedOther with route := performedOther.route.pass target } next) :=
      same_enter hg (h.pass target) (Graph.holds_of_resolve hnext)
    split
    · apply Outcome.same_bind (hleft.perform target)
      intro performed performedOther _ _ hperformed
      exact henter hperformed
    · exact henter hleft
  · exact same_enter hg (h.leave offering text true none) htarget

omit hg in
theorem inStep_rewind :
    Progress.InStep story.graph.readPaths (story.graph.rewind p) (story.graph.rewind other) := by
  have hlist := h.checkpoints
  unfold Graph.rewind
  cases hpast : p.route.checkpoints with
  | nil =>
      rw [hpast] at hlist
      rw [List.forall₂_nil_left_iff.mp hlist]
      exact h
  | cons checkpoint past =>
      rw [hpast] at hlist
      obtain ⟨last, others, hlast, hothers, hother⟩ := List.forall₂_cons_left_iff.mp hlist
      have hrest := hlast.rest
      simp only [Checkpoint.withoutSnapshot, Checkpoint.mk.injEq] at hrest
      obtain ⟨hnode, -, -, hdepth, hcontainers, -, -⟩ := hrest
      rw [hother]
      dsimp only
      rw [hnode, hdepth, hcontainers, h.history]
      exact ⟨hlast.snapshot, h.initial, rfl, rfl, rfl, hothers⟩

theorem render_eq (hp : story.graph.Stands p.route.position) :
    story.graph.render p = story.graph.render other := by
  unfold Graph.render
  rw [← h.position]
  split
  · rfl
  · rfl
  · rename_i hposition
    rw [hposition] at hp
    rw [Graph.choices_eq hg h.current hp.1]

theorem same_shown (hp : story.graph.Stands p.route.position) :
    Outcome.Same (Session.InStep story.graph.readPaths) (story.shown p) (story.shown other) := by
  unfold shown
  rw [render_eq hg h hp]
  apply Outcome.same_map Outcome.same_rfl
  rintro display _ rfl
  exact ⟨h, rfl⟩

end Moves

section Runs

variable {story : Story} {s other : Session} {past : List Session}
  (hg : Graph.ofDocument story.graph.document = .ok story.graph)
  (hstart : story.graph.Holds story.start) (hpast : Recalls story s past)
  (h : Session.InStep story.graph.readPaths s other)

include hg hstart hpast h

/-- The same trigger leads readers in step to the same fault, or to where they are in step
again. -/
theorem same_step (t : Trigger) :
    Outcome.Same (Session.InStep story.graph.readPaths) (story.step s t) (story.step other t) := by
  have hshow {attempted attemptedOther : Except Fault Progress}
      (hattempt : Attempt story s t attempted)
      (hsame : Outcome.Same (Progress.InStep story.graph.readPaths) attempted attemptedOther) :
      Outcome.Same (Session.InStep story.graph.readPaths) (attempted >>= story.shown)
        (attemptedOther >>= story.shown) := by
    apply Outcome.same_bind hsame
    intro q qOther hq _ hinStep
    rw [hq] at hattempt
    exact same_shown hg hinStep (hpast.stands_of_attempt hstart hattempt)
  have hignored : Outcome.Same (Session.InStep story.graph.readPaths)
      (.ok s : Except Fault Session) (.ok other) := h
  unfold step
  cases t with
  | advance =>
      dsimp only
      rw [← h.progress.position]
      cases hposition : s.progress.route.position with
      | displaying n => exact hshow (.advance hposition) (same_advanceFrom hg h.progress n)
      | offering n => exact hignored
      | ended => exact hignored
  | select index =>
      dsimp only
      rw [← h.display]
      cases hdisplay : s.display with
      | content c => exact hignored
      | ended => exact hignored
      | choices offer =>
          cases hchoice : offer.choices[index]? with
          | none => simpa only [hchoice] using hignored
          | some choice =>
              by_cases henabled : choice.enabled = true
              · obtain ⟨-, hchoices⟩ := hpast.sound.choices_of_display hdisplay
                have htarget := Graph.holds_of_mem_choices hchoices (List.mem_of_getElem? hchoice)
                have hsame := same_choose hg h.progress htarget offer.node choice.text
                simpa only [hchoice, henabled, if_true] using
                  hshow (.select hdisplay hchoice henabled) hsame
              · simpa only [hchoice, if_neg henabled] using hignored
  | back =>
      have hlist := h.progress.checkpoints
      cases hchecks : s.progress.route.checkpoints with
      | nil =>
          rw [hchecks] at hlist
          simpa only [List.forall₂_nil_left_iff.mp hlist] using hignored
      | cons checkpoint checkpoints =>
          rw [hchecks] at hlist
          obtain ⟨last, others, -, -, hother⟩ := List.forall₂_cons_left_iff.mp hlist
          simpa only [hother] using
            same_shown hg (inStep_rewind h.progress) hpast.stands_rewind
  | jump id =>
      dsimp only
      cases hnode : story.graph.node? id with
      | none => exact hignored
      | some n => exact hshow (.jump hnode) (same_reenter hg h.progress ⟨id, hnode⟩)
  | restart => exact hshow .restart (same_reenter hg h.progress hstart)

theorem inStep_fire (t : Trigger) :
    (story.fire s t).1 = (story.fire other t).1 ∧
      Session.InStep story.graph.readPaths (story.fire s t).2 (story.fire other t).2 := by
  have hsame := same_step hg hstart hpast h t
  unfold fire
  cases hstep : story.step s t with
  | error fault =>
      cases hother : story.step other t with
      | error otherFault =>
          rw [hstep, hother] at hsame
          exact ⟨congrArg Except.error hsame, h⟩
      | ok otherAfter =>
          rw [hstep, hother] at hsame
          exact hsame.elim
  | ok after =>
      cases hother : story.step other t with
      | error otherFault =>
          rw [hstep, hother] at hsame
          exact hsame.elim
      | ok otherAfter =>
          rw [hstep, hother] at hsame
          exact ⟨congrArg Except.ok hsame.display, hsame⟩

/-- Readers in step get the same answers to the same triggers, and remain in step. -/
theorem inStep_run (triggers : List Trigger) :
    (story.run s triggers).1 = (story.run other triggers).1 ∧
      Session.InStep story.graph.readPaths (story.run s triggers).2
        (story.run other triggers).2 := by
  induction triggers generalizing s other past with
  | nil => exact ⟨rfl, h⟩
  | cons t triggers ih =>
      obtain ⟨hanswer, hafter⟩ := inStep_fire hg hstart hpast h t
      obtain ⟨hanswers, hlast⟩ := ih (hpast.fire hstart t) hafter
      exact ⟨by simp only [run, hanswer, hanswers], hlast⟩

end Runs

end Story

end Narrative
