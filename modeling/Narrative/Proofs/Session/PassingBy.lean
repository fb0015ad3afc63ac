import Narrative.Proofs.Session.Fresh

/-!
Passing by. A chosen node that is shown and has a single edge is not stopped at: its edge is
resolved first, its assignments are made next, and the reader comes to what is behind it. The
long way stops there: the reader comes to the chosen node as to any other, and goes on from it
as from any shown node. Both ways are open together, and they lead to the same place with the
same variables. Only the checkpoints tell which of them was taken.
-/

namespace Narrative

namespace Outcome

variable {ε α α' : Type}

/-- Two outcomes that are both faults, or results in the given relation. -/
def Together (R : α → α' → Prop) : Except ε α → Except ε α' → Prop
  | .ok a, .ok a' => R a a'
  | .error _, .error _ => True
  | _, _ => False

end Outcome

namespace Progress

/-- The progress with other points to go back to. -/
def recalling (p : Progress) (checkpoints : List Checkpoint) : Progress :=
  { p with route := { p.route with checkpoints } }

/-- The checkpoint that is made for a node that is left. -/
def checkpointAt (p : Progress) (n : Node) (text : String) (isChoice : Bool)
    (skipped : Option Node) : Checkpoint :=
  { node := n, text, snapshot := p.store.current, depth := p.route.history.length,
    containers := p.route.containers, isChoice, skipped }

theorem checkpoints_leave (p : Progress) (n : Node) (text : String) (isChoice : Bool)
    (skipped : Option Node) :
    (p.leave n text isChoice skipped).route.checkpoints =
      p.checkpointAt n text isChoice skipped :: p.route.checkpoints := rfl

/-- Where two readers are who left the same place for a node, of whom the first has passed the
node by and the second has stopped there. They differ in the checkpoints only: the first reader
has one, which names the node, and the second has one for each of two departures. -/
structure PassedBy (before : Progress) (target : Node) (passing stopping : Progress) : Prop where
  store : passing.store = stopping.store
  position : passing.route.position = stopping.route.position
  history : passing.route.history = stopping.route.history
  containers : passing.route.containers = stopping.route.containers
  checkpoints : ∃ first second : Checkpoint, first.skipped = none ∧
    second.node = target ∧ second.isChoice = false ∧ second.skipped = none ∧
    passing.route.checkpoints =
      { first with skipped := some target } :: before.route.checkpoints ∧
    stopping.route.checkpoints = second :: first :: before.route.checkpoints

theorem perform_recalling (p : Progress) (checkpoints : List Checkpoint) (n : Node) :
    (p.recalling checkpoints).perform n = (p.perform n).map (·.recalling checkpoints) := by
  unfold perform
  cases Fault.ofScript n.id (Script.assignments n.expression) <;> rfl

theorem perform_standAt (p : Progress) (position : Position) (n : Node) :
    perform { p with route := p.route.standAt position } n =
      (p.perform n).map fun q => { q with route := q.route.standAt position } := by
  unfold perform
  cases Fault.ofScript n.id (Script.assignments n.expression) <;> rfl

end Progress

namespace Graph

variable {g : Graph} {n : Node}

theorem hop_of_isDisplayed (h : (g.kindOf n).isDisplayed = true) (store : Store)
    (containers : List Node) :
    g.hop store containers n = .ok (.rest (.displaying n) containers) := by
  unfold hop
  cases hkind : g.kindOf n <;> simp_all [Kind.isDisplayed]

/-- A reader who comes to a node that can be shown rests there, whatever the budget. -/
theorem settle_of_isDisplayed (h : (g.kindOf n).isDisplayed = true) (store : Store)
    (budget : Nat) (containers : List Node) :
    g.settle store budget containers n = .ok (.displaying n, containers) := by
  unfold settle
  cases budget with
  | zero => simp only [settleWithin, hop_of_isDisplayed h]
  | succ budget => simp only [settleWithin, hop_of_isDisplayed h]

end Graph

namespace Story

variable {story : Story} {p : Progress} {target : Node}

/-- The progress of a reader who has come to a node that can be shown: an instruction is
performed. -/
def attend (story : Story) (p : Progress) (n : Node) : Except Fault Progress :=
  if story.graph.kindOf n = .instruction then p.perform n else .ok p

theorem attend_recalling (checkpoints : List Checkpoint) (n : Node) :
    story.attend (p.recalling checkpoints) n =
      (story.attend p n).map (·.recalling checkpoints) := by
  unfold attend
  split
  · exact Progress.perform_recalling p checkpoints n
  · rfl

theorem attend_standAt (position : Position) (n : Node) :
    story.attend { p with route := p.route.standAt position } n =
      (story.attend p n).map fun q => { q with route := q.route.standAt position } := by
  unfold attend
  split
  · exact Progress.perform_standAt p position n
  · rfl

/-- Coming to a node does not depend on the points to go back to. -/
theorem enter_recalling (checkpoints : List Checkpoint) (n : Node) :
    story.enter (p.recalling checkpoints) n =
      (story.enter p n).map (·.recalling checkpoints) := by
  unfold enter
  have hsettle : story.graph.settle (p.recalling checkpoints).store story.settings.maxAutoSteps
      (p.recalling checkpoints).route.containers n =
        story.graph.settle p.store story.settings.maxAutoSteps p.route.containers n := rfl
  rw [hsettle]
  cases story.graph.settle p.store story.settings.maxAutoSteps p.route.containers n with
  | error fault => rfl
  | ok rest =>
      obtain ⟨position, containers⟩ := rest
      cases position with
      | displaying shown =>
          exact attend_recalling
            (p := { p with route := { p.route with position := .displaying shown, containers } })
            checkpoints shown
      | offering offering => rfl
      | ended => rfl

theorem enter_pass_recalling (checkpoints : List Checkpoint) (n next : Node) :
    story.enter { p.recalling checkpoints with route := (p.recalling checkpoints).route.pass n }
        next =
      (story.enter { p with route := p.route.pass n } next).map (·.recalling checkpoints) :=
  enter_recalling (p := { p with route := p.route.pass n }) checkpoints next

/-- A reader who leaves a node for another comes where one comes who only moves past it. -/
theorem enter_leave (n : Node) (text : String) (isChoice : Bool) (skipped : Option Node)
    (next : Node) :
    story.enter (p.leave n text isChoice skipped) next =
      (story.enter { p with route := p.route.pass n } next).map
        (·.recalling (p.leave n text isChoice skipped).route.checkpoints) :=
  enter_recalling (p := { p with route := p.route.pass n }) _ next

/-- A node that can be shown is attended to, and shown. -/
theorem enter_of_isDisplayed (h : (story.graph.kindOf target).isDisplayed = true) :
    story.enter p target =
      (story.attend p target).map
        fun q => { q with route := q.route.standAt (.displaying target) } := by
  unfold enter
  rw [Graph.settle_of_isDisplayed h]
  exact attend_standAt (.displaying target) target

theorem advanceFrom_of_single {edge : Edge} (hedges : target.edges = [edge]) :
    story.advanceFrom p target =
      story.graph.resolve target edge >>=
        story.enter (p.leave target (target.summary (story.graph.kindOf target)) false none) := by
  unfold advanceFrom
  have hsingle : ¬(story.graph.kindOf target = .instruction ∧ target.edgeCount ≠ 1) := by
    simp [Node.edgeCount, hedges]
  simp only [if_neg hsingle, hedges]

theorem choose_of_single {offering : Node} {text : String} {edge : Edge}
    (hdisplayed : (story.graph.kindOf target).isDisplayed = true)
    (hedges : target.edges = [edge]) :
    story.choose p offering target text =
      story.graph.resolve target edge >>= fun next =>
        story.attend (p.leave offering text true (some target)) target >>= fun attended =>
          story.enter { attended with route := attended.route.pass target } next := by
  unfold choose attend
  simp only [hdisplayed, hedges]
  split <;> rfl

/-- The progress of a reader who takes a choice without passing the chosen node by: the reader
comes to the node, and goes on from it. -/
def chooseStopping (story : Story) (p : Progress) (offering target : Node) (text : String) :
    Except Fault Progress := do
  let here ← story.enter (p.leave offering text true none) target
  story.advanceFrom here target

theorem chooseStopping_of_single {offering : Node} {text : String} {edge : Edge}
    (hdisplayed : (story.graph.kindOf target).isDisplayed = true)
    (hedges : target.edges = [edge]) :
    story.chooseStopping p offering target text =
      story.attend (p.leave offering text true none) target >>= fun attended =>
        story.graph.resolve target edge >>=
          story.enter
            (attended.leave target (target.summary (story.graph.kindOf target)) false none) := by
  unfold chooseStopping
  rw [enter_of_isDisplayed hdisplayed]
  simp only [advanceFrom_of_single hedges]
  cases story.attend (p.leave offering text true none) target <;> rfl

/-- A choice of a shown node with a single edge is open both ways or neither, and leads to the
same place with the same variables. It makes no difference that the edge is resolved before the
assignments are made or after them. -/
theorem together_choose {offering : Node} {text : String}
    (hdisplayed : (story.graph.kindOf target).isDisplayed = true) (hsingle : target.edgeCount = 1) :
    Outcome.Together (Progress.PassedBy p target) (story.choose p offering target text)
      (story.chooseStopping p offering target text) := by
  obtain ⟨edge, hedges⟩ := List.length_eq_one_iff.mp hsingle
  rw [choose_of_single hdisplayed hedges, chooseStopping_of_single hdisplayed hedges]
  have hattend : story.attend (p.leave offering text true (some target)) target =
      (story.attend (p.leave offering text true none) target).map
        (·.recalling (p.leave offering text true (some target)).route.checkpoints) :=
    attend_recalling (p := p.leave offering text true none) _ target
  rw [hattend]
  cases hleft : story.attend (p.leave offering text true none) target with
  | error fault =>
      cases story.graph.resolve target edge with
      | error fault => trivial
      | ok next => trivial
  | ok attended =>
      cases story.graph.resolve target edge with
      | error fault => trivial
      | ok next =>
          change Outcome.Together _
            (story.enter { attended.recalling _ with
              route := (attended.recalling _).route.pass target } next)
            (story.enter (attended.leave target _ false none) next)
          -- Either way the reader comes to the next node after the chosen one was moved past.
          rw [enter_pass_recalling, enter_leave]
          obtain ⟨-, -, hroute⟩ := visit_of_perform hleft
          have hpast : attended.route.checkpoints =
              p.checkpointAt offering text true none :: p.route.checkpoints := by
            rw [hroute, Progress.checkpoints_leave]
          rw [Progress.checkpoints_leave, Progress.checkpoints_leave, hpast]
          cases story.enter { attended with route := attended.route.pass target } next with
          | error fault => trivial
          | ok q =>
              let text' := target.summary (story.graph.kindOf target)
              exact ⟨rfl, rfl, rfl, rfl, p.checkpointAt offering text true none,
                attended.checkpointAt target text' false none, rfl, rfl, rfl, rfl, rfl, rfl⟩

end Story

/-- Where two readers are who left the same place for a node, of whom the first has passed the
node by and the second has stopped there. They are shown the same. -/
structure Session.PassedBy (before : Session) (target : Node) (passing stopping : Session) :
    Prop where
  progress : Progress.PassedBy before.progress target passing.progress stopping.progress
  display : passing.display = stopping.display

namespace Work

variable {s : Session} {R : Session → Session → Prop}

/-- Come to a chosen node as to any other: a checkpoint is made for the node that offered the
choice, and that node is moved past. -/
def comeTo (story : Story) (offering target : Node) (text : String) : Work Unit := do
  mark offering text true none
  pass offering
  enter story target

/-- Take a choice without passing the chosen node by: come to it, and go on from it as from any
shown node. -/
def chooseStopping (story : Story) (offering target : Node) (text : String) : Work Unit := do
  comeTo story offering target text
  advance story target

theorem meets_comeTo (story : Story) (offering target : Node) (text : String) (s : Session) :
    MeetsMove s (story.enter (s.progress.leave offering text true none) target)
      ((comeTo story offering target text).run s) :=
  (meets_enter story target _).of_sameFrame ⟨rfl, rfl⟩

theorem meets_chooseStopping (story : Story) (offering target : Node) (text : String)
    (s : Session) :
    MeetsMove s (story.chooseStopping s.progress offering target text)
      ((chooseStopping story offering target text).run s) :=
  MeetsMove.bind (meets_comeTo story offering target text s) fun t => meets_advance story target t

/-- A node that can be shown is shown when the reader comes to it. -/
theorem position_of_comeTo {story : Story} {offering target : Node} {text : String} {t : Session}
    (hdisplayed : (story.graph.kindOf target).isDisplayed = true)
    (h : (comeTo story offering target text).run s = .ok () t) :
    t.progress.route.position = .displaying target := by
  have hmeets := meets_comeTo story offering target text s
  rw [h] at hmeets
  obtain ⟨q, hq, heq⟩ := Outcome.map_eq_ok_iff.mp hmeets.1
  rw [Story.enter_of_isDisplayed hdisplayed] at hq
  obtain ⟨attended, -, hstands⟩ := Outcome.map_eq_ok_iff.mp hq
  cases heq
  rw [← hstands]
  rfl

/-- Whether two pieces of work on a session both succeed, with the same answer and with sessions
in the given relation, or are both stopped by a fault with the session as it was. -/
inductive Together (s : Session) (R : Session → Session → Prop) :
    EStateM.Result Fault Session Display → EStateM.Result Fault Session Display → Prop where
  | ok {t u : Session} (display : Display) (h : R t u) :
      Together s R (.ok display t) (.ok display u)
  | error (fault other : Fault) : Together s R (.error fault s) (.error other s)

theorem Answers.together {expected expected' : Except Fault Session}
    {result result' : EStateM.Result Fault Session Display} (h : Answers s expected result)
    (h' : Answers s expected' result') (htogether : Outcome.Together R expected expected')
    (hdisplay : ∀ t u, R t u → t.display = u.display) : Together s R result result' := by
  cases h with
  | ok t =>
      cases h' with
      | ok u =>
          rw [hdisplay t u htogether]
          exact .ok u.display htogether
      | error other => exact htogether.elim
  | error fault =>
      cases h' with
      | ok u => exact htogether.elim
      | error other => exact .error fault other

end Work

namespace Story

variable {document : Document} {settings : Settings} {story : Story} {s : Session}

theorem render_of_passedBy {before : Progress} {target : Node} {p q : Progress}
    (h : Progress.PassedBy before target p q) : story.graph.render p = story.graph.render q := by
  simp only [Graph.render, h.position, h.store]

theorem together_shown {target : Node} {passing stopping : Except Fault Progress}
    (h : Outcome.Together (Progress.PassedBy s.progress target) passing stopping) :
    Outcome.Together (Session.PassedBy s target) (passing >>= story.shown)
      (stopping >>= story.shown) := by
  cases passing with
  | error fault =>
      cases stopping with
      | error other => trivial
      | ok q => exact h.elim
  | ok p =>
      cases stopping with
      | error other => exact h.elim
      | ok q =>
          have hrender : story.graph.render p = story.graph.render q := render_of_passedBy h
          change Outcome.Together _ (story.shown p) (story.shown q)
          unfold shown
          rw [hrender]
          cases story.graph.render q with
          | error fault => trivial
          | ok display => exact ⟨h, rfl⟩

/-- In every session of every run in which a node offers its edges, each choice that is enabled
and leads to a shown node with a single edge succeeds just if it succeeds without passing that
node by: to come to the node, where it is shown, to go on from it as from any shown node, and to
show what is there. Where both succeed, they are answered alike, and lead to the same position,
history, open containers and variables; where the first has one checkpoint that names the node
as passed by, the second has two. -/
theorem select_together_chooseStopping (h : Reachable document settings story s) {n : Node}
    (hposition : s.progress.route.position = .offering n) :
    ∃ offer, s.display = .choices offer ∧ offer.node = n ∧
      ∀ index choice, offer.choices[index]? = some choice → choice.enabled = true →
        (story.graph.kindOf choice.target).isDisplayed = true → choice.target.edgeCount = 1 →
          (∀ t, (Work.comeTo story n choice.target choice.text).run s = .ok () t →
            t.progress.route.position = .displaying choice.target) ∧
          Work.Together s (Session.PassedBy s choice.target)
            ((Work.respond story (.select index)).run s)
            ((Work.transition story
              (Work.chooseStopping story n choice.target choice.text)).run s) := by
  obtain ⟨-, past, hpast⟩ := h.recalls
  obtain ⟨first, triggers, hopened, -⟩ := h
  have hfresh := hpast.sound.fresh (ofDocument_eq_ok (opened_eq_ok_iff.mp hopened).1).1
  obtain ⟨offer, hdisplay, rfl⟩ := (hfresh.offering n).mp hposition
  refine ⟨offer, hdisplay, rfl, ?_⟩
  intro index choice hchoice henabled hdisplayed hsingle
  refine ⟨fun t => Work.position_of_comeTo hdisplayed, ?_⟩
  have hstep : story.step s (.select index) =
      story.choose s.progress offer.node choice.target choice.text >>= story.shown := by
    simp only [step, hdisplay, hchoice, henabled, if_true]
  have hselect := Work.answers_respond story (.select index) s
  rw [hstep] at hselect
  have hstopping : Work.Answers s
      (story.chooseStopping s.progress offer.node choice.target choice.text >>= story.shown)
      ((Work.transition story
        (Work.chooseStopping story offer.node choice.target choice.text)).run s) :=
    Work.answers_transition
      (Work.meets_chooseStopping story offer.node choice.target choice.text s)
  exact hselect.together hstopping (together_shown (together_choose hdisplayed hsingle))
    fun t u hpassed => hpassed.display

/-- At the hub of the crossroads the key is passed by, and the reader comes to the bed. -/
theorem select_together_chooseStopping_at_hub :
    ∃ story first n, ∃ offer : Offer, ∃ choice, opened crossroads {} = .ok (story, first) ∧
      (story.run first [.advance]).2.progress.route.position = .offering n ∧
      offer.choices[0]? = some choice ∧ choice.target.id = "key" ∧
      (story.fire (story.run first [.advance]).2 (.select 0)).2.progress.route.checkpoints.map
          (fun c => (c.node.id, c.skipped.map Node.id)) =
        [("hub", some "key"), ("gate", none)] ∧
      Work.Together (story.run first [.advance]).2
        (Session.PassedBy (story.run first [.advance]).2 choice.target)
        ((Work.respond story (.select 0)).run (story.run first [.advance]).2)
        ((Work.transition story (Work.chooseStopping story n choice.target choice.text)).run
          (story.run first [.advance]).2) := by
  obtain ⟨story, first, n, offer, choice, hopened, hposition, hdisplay, hchoice, henabled,
      hdisplayed, hsingle, hid, hpassed⟩ :
    ∃ story first n, ∃ offer : Offer, ∃ choice, opened crossroads {} = .ok (story, first) ∧
      (story.run first [.advance]).2.progress.route.position = .offering n ∧
      (story.run first [.advance]).2.display = .choices offer ∧
      offer.choices[0]? = some choice ∧ choice.enabled = true ∧
      (story.graph.kindOf choice.target).isDisplayed = true ∧ choice.target.edgeCount = 1 ∧
      choice.target.id = "key" ∧
      (story.fire (story.run first [.advance]).2 (.select 0)).2.progress.route.checkpoints.map
          (fun c => (c.node.id, c.skipped.map Node.id)) =
        [("hub", some "key"), ("gate", none)] :=
    ⟨_, _, _, _, _, rfl, rfl, rfl, rfl, rfl, rfl, rfl, rfl, rfl⟩
  obtain ⟨other, hother, -, htogether⟩ :=
    select_together_chooseStopping ⟨first, [.advance], hopened, rfl⟩ hposition
  cases hdisplay.symm.trans hother
  obtain ⟨-, hresults⟩ := htogether 0 choice hchoice henabled hdisplayed hsingle
  exact ⟨story, first, n, offer, choice, hopened, hposition, hchoice, hid, hpassed, hresults⟩

end Story

end Narrative
