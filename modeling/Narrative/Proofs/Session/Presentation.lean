import Narrative.Proofs.Graph.Resemblance
import Narrative.Proofs.Session.Transaction

/-!
Presentation never steers. Two documents that are the same but for what is only read, and that
have the start marker at the same places, are read alike: the same triggers get the same answers
and lead to the same places with the same variables, but for what is only read there. The two runs
are compared as they are, step by step; no invariant of a single run is needed.
-/

namespace Narrative

def Checkpoint.plain (c : Checkpoint) : Checkpoint where
  node := c.node.plain
  text := ""
  snapshot := c.snapshot
  depth := c.depth
  containers := c.containers.map Node.plain
  isChoice := c.isChoice
  skipped := c.skipped.map Node.plain

def Route.plain (r : Route) : Route where
  position := r.position.plain
  history := r.history.map Node.plain
  containers := r.containers.map Node.plain
  checkpoints := r.checkpoints.map Checkpoint.plain

def Progress.plain (p : Progress) : Progress :=
  { p with route := p.route.plain }

def Content.plain (c : Content) : Content where
  node := c.node.plain
  title := ""
  body := ""
  speaker := none
  stageDirections := none
  color := none
  hasNext := c.hasNext

def Offer.plain (o : Offer) : Offer where
  node := o.node.plain
  title := ""
  body := ""
  choices := o.choices.map Choice.plain

def Display.plain : Display → Display
  | .content c => .content c.plain
  | .choices o => .choices o.plain
  | .ended => .ended

/-- The session without what is only read. The variables, the ids of every node that it knows,
and the targets, guards and marks of its choices are all left. -/
def Session.plain (s : Session) : Session where
  progress := s.progress.plain
  display := s.display.plain

theorem Progress.plain_eq_iff {p q : Progress} :
    p.plain = q.plain ↔ p.store = q.store ∧
      p.route.position.plain = q.route.position.plain ∧
      p.route.history.map Node.plain = q.route.history.map Node.plain ∧
      p.route.containers.map Node.plain = q.route.containers.map Node.plain ∧
      p.route.checkpoints.map Checkpoint.plain = q.route.checkpoints.map Checkpoint.plain := by
  simp only [Progress.plain, Route.plain, Progress.mk.injEq, Route.mk.injEq]

namespace Graph

section Progress

variable {g other : Graph} (h : g.Resembles other) {p q : Progress} (hp : p.plain = q.plain)

include h hp

theorem Resembles.same_render :
    Outcome.SameBy Display.plain (g.render p) (other.render q) := by
  obtain ⟨hstore, hposition, -, -, -⟩ := Progress.plain_eq_iff.mp hp
  unfold render
  rw [hstore]
  generalize p.route.position = position, q.route.position = position' at hposition ⊢
  cases Position.alike_of_plain_eq hposition with
  | ended => rfl
  | displaying hn =>
      change Display.plain _ = Display.plain _
      simp only [Display.plain, Content.plain, hn, h.kindOf hn, Node.edgeCount_eq_of_plain_eq hn]
  | offering hn =>
      apply Outcome.same_map (h.same_choices hn q.store)
      intro choices choices' hchoices
      simp only [Display.plain, Offer.plain, hn, hchoices]

theorem Resembles.plain_rewind : (g.rewind p).plain = (other.rewind q).plain := by
  obtain ⟨hstore, -, hhistory, -, hpast⟩ := Progress.plain_eq_iff.mp hp
  unfold rewind
  generalize p.route.checkpoints = past, q.route.checkpoints = past' at hpast ⊢
  cases forall₂_of_map_eq hpast with
  | nil => exact hp
  | cons hc _ =>
      obtain ⟨-, hrest⟩ := List.cons.inj hpast
      obtain ⟨hnode, -, hsnapshot, hdepth, hcontainers, -, -⟩ := Checkpoint.mk.inj hc
      dsimp only
      rw [h.offersOnReturn_eq hnode, hstore, hsnapshot, hdepth]
      refine Progress.plain_eq_iff.mpr ⟨rfl, ?_, ?_, hcontainers, hrest⟩
      · split
        · exact congrArg Position.offering hnode
        · exact congrArg Position.displaying hnode
      · rw [List.map_take, List.map_take, hhistory]

end Progress

end Graph

namespace Progress

variable {p q : Progress} (hp : p.plain = q.plain) {n m : Node} (hn : n.plain = m.plain)

include hp

theorem plain_standAt {position position' : Position} (h : position.plain = position'.plain) :
    Progress.plain { p with route := p.route.standAt position } =
      Progress.plain { q with route := q.route.standAt position' } := by
  obtain ⟨hstore, -, hhistory, hcontainers, hpast⟩ := plain_eq_iff.mp hp
  exact plain_eq_iff.mpr ⟨hstore, h, hhistory, hcontainers, hpast⟩

include hn

theorem plain_pass :
    Progress.plain { p with route := p.route.pass n } =
      Progress.plain { q with route := q.route.pass m } := by
  obtain ⟨hstore, hposition, hhistory, hcontainers, hpast⟩ := plain_eq_iff.mp hp
  refine plain_eq_iff.mpr ⟨hstore, hposition, ?_, hcontainers, hpast⟩
  simp only [Route.pass, List.map_append, List.map_cons, List.map_nil, hhistory, hn]

theorem plain_leave (text text' : String) (isChoice : Bool) (skipped skipped' : Option Node)
    (hskipped : skipped.map Node.plain = skipped'.map Node.plain) :
    (p.leave n text isChoice skipped).plain = (q.leave m text' isChoice skipped').plain := by
  obtain ⟨hstore, -, hbefore, hcontainers, hpast⟩ := plain_eq_iff.mp hp
  obtain ⟨-, hposition, hhistory, -, -⟩ := plain_eq_iff.mp (plain_pass hp hn)
  have hdepth : p.route.history.length = q.route.history.length := by
    simpa only [List.length_map] using congrArg List.length hbefore
  refine plain_eq_iff.mpr ⟨hstore, hposition, hhistory, hcontainers, ?_⟩
  refine congrArg₂ List.cons ?_ hpast
  simp only [Checkpoint.plain, hn, hstore, hdepth, hcontainers, hskipped]

theorem same_perform : Outcome.SameBy Progress.plain (p.perform n) (q.perform m) := by
  obtain ⟨hstore, hroute⟩ := Progress.mk.inj hp
  unfold perform
  rw [Node.id_eq_of_plain_eq hn, Node.expression_eq_of_plain_eq hn]
  apply Outcome.same_map Outcome.same_rfl
  rintro assigned _ rfl
  simp only [Progress.plain, hroute]
  exact congrArg (fun store : Store => Progress.mk (store.assign assigned) _) hstore

end Progress

namespace Story

/-- Stories with the same settings whose graphs give the same nodes, but for what is only read,
and that have the same start but for that. -/
structure Resembles (story other : Story) : Prop where
  graph : story.graph.Resembles other.graph
  settings : story.settings = other.settings
  start : story.start.plain = other.start.plain

section Moves

variable {story other : Story} (h : story.Resembles other) {p q : Progress}
  (hp : p.plain = q.plain) {n m : Node} (hn : n.plain = m.plain)

include h hp hn

theorem Resembles.same_enter :
    Outcome.SameBy Progress.plain (story.enter p n) (other.enter q m) := by
  obtain ⟨hstore, -, hhistory, hcontainers, hpast⟩ := Progress.plain_eq_iff.mp hp
  have hsettle : Outcome.SameBy (Prod.map Position.plain (List.map Node.plain))
      (story.graph.settle p.store story.settings.maxAutoSteps p.route.containers n)
      (other.graph.settle q.store other.settings.maxAutoSteps q.route.containers m) := by
    rw [hstore, h.settings]
    exact h.graph.same_settleWithin q.store _ _ hn hcontainers
  unfold enter
  apply Outcome.same_bind hsettle
  rintro ⟨position, containers⟩ ⟨position', containers'⟩ - - hrest
  obtain ⟨hposition, hcontainers⟩ := Prod.mk.inj hrest
  have hcome : Progress.plain { p with route := { p.route with position, containers } } =
      Progress.plain
        { q with route := { q.route with position := position', containers := containers' } } :=
    Progress.plain_eq_iff.mpr ⟨hstore, hposition, hhistory, hcontainers, hpast⟩
  cases Position.alike_of_plain_eq hposition with
  | offering => exact hcome
  | ended => exact hcome
  | displaying hshown =>
      dsimp only
      rw [h.graph.kindOf hshown]
      split
      · exact Progress.same_perform hcome hshown
      · exact hcome

theorem Resembles.same_reenter :
    Outcome.SameBy Progress.plain (story.reenter p n) (other.reenter q m) := by
  obtain ⟨hstore, -⟩ := Progress.plain_eq_iff.mp hp
  unfold reenter
  apply h.same_enter _ hn
  refine Progress.plain_eq_iff.mpr ⟨?_, rfl, rfl, ?_, rfl⟩
  · exact congrArg Store.reset hstore
  · exact h.graph.enclosingContainers_eq hn

theorem Resembles.same_advanceFrom :
    Outcome.SameBy Progress.plain (story.advanceFrom p n) (other.advanceFrom q m) := by
  have hedges := Node.forall₂_edges_of_plain_eq hn
  have hleft := Progress.plain_leave hp hn (n.summary (other.graph.kindOf m))
    (m.summary (other.graph.kindOf m)) false none none rfl
  unfold advanceFrom
  rw [h.graph.kindOf hn, Node.edgeCount_eq_of_plain_eq hn, Node.id_eq_of_plain_eq hn]
  dsimp only
  split
  · rfl
  · generalize n.edges = edges, m.edges = edges' at hedges ⊢
    cases hedges with
    | nil => exact Progress.plain_standAt hleft rfl
    | cons hedge hrest =>
        cases hrest with
        | nil =>
            apply Outcome.same_bind (h.graph.same_resolve hn hedge)
            intro next next' _ _ hnext
            exact h.same_enter hleft hnext
        | cons => exact Progress.plain_standAt hp (congrArg Position.offering hn)

omit hn in
theorem Resembles.same_choose {offering offering' target target' : Node}
    (hoffering : offering.plain = offering'.plain) (htarget : target.plain = target'.plain)
    (text text' : String) :
    Outcome.SameBy Progress.plain (story.choose p offering target text)
      (other.choose q offering' target' text') := by
  have hedges := Node.forall₂_edges_of_plain_eq htarget
  have hcome : Outcome.SameBy Progress.plain
      (story.enter (p.leave offering text true none) target)
      (other.enter (q.leave offering' text' true none) target') :=
    h.same_enter (Progress.plain_leave hp hoffering text text' true none none rfl) htarget
  unfold choose
  rw [h.graph.kindOf htarget]
  dsimp only
  generalize target.edges = edges, target'.edges = edges' at hedges ⊢
  cases (other.graph.kindOf target').isDisplayed with
  | false => exact hcome
  | true =>
      cases hedges with
      | nil => exact hcome
      | cons hedge hrest =>
          cases hrest with
          | cons => exact hcome
          | nil =>
              apply Outcome.same_bind (h.graph.same_resolve htarget hedge)
              intro next next' _ _ hnext
              have hleft := Progress.plain_leave hp hoffering text text' true (some target)
                (some target') (congrArg some htarget)
              have hpassed {performed performed' : Progress}
                  (hperformed : performed.plain = performed'.plain) :
                  Outcome.SameBy Progress.plain
                    (story.enter { performed with route := performed.route.pass target } next)
                    (other.enter { performed' with route := performed'.route.pass target' }
                      next') :=
                h.same_enter (Progress.plain_pass hperformed htarget) hnext
              split
              · apply Outcome.same_bind (Progress.same_perform hleft htarget)
                intro performed performed' _ _ hperformed
                exact hpassed hperformed
              · exact hpassed hleft

omit hn in
theorem Resembles.same_shown :
    Outcome.SameBy Session.plain (story.shown p) (other.shown q) := by
  apply Outcome.same_map (h.graph.same_render hp)
  intro display display' hdisplay
  exact congrArg₂ Session.mk hp hdisplay

end Moves

section Runs

variable {story other : Story} (h : story.Resembles other)

include h

theorem Resembles.same_bind_shown {attempted attempted' : Except Fault Progress}
    (hsame : Outcome.SameBy Progress.plain attempted attempted') :
    Outcome.SameBy Session.plain (attempted >>= story.shown) (attempted' >>= other.shown) := by
  apply Outcome.same_bind hsame
  intro p q _ _ hp
  exact h.same_shown hp

variable {s t : Session} (hs : s.plain = t.plain)

include hs

/-- A choice is found by its place, and both readers find one that is open to both or to neither,
to nodes that are the same but for what is only read. -/
theorem Resembles.same_select (index : Nat) :
    Outcome.SameBy Session.plain (story.step s (.select index)) (other.step t (.select index)) := by
  obtain ⟨hp, hdisplay⟩ := Session.mk.inj hs
  have hignored : Outcome.SameBy Session.plain (.ok s : Except Fault Session) (.ok t) := hs
  unfold step
  dsimp only
  generalize s.display = display, t.display = display' at hdisplay ⊢
  cases display with
  | content c =>
      cases display' with
      | content c' => exact hignored
      | _ => cases hdisplay
  | ended =>
      cases display' with
      | ended => exact hignored
      | _ => cases hdisplay
  | choices offer =>
      cases display' with
      | choices offer' =>
          obtain ⟨hnode, -, -, hchoices⟩ := Offer.mk.inj (Display.choices.inj hdisplay)
          have hchoice : offer.choices[index]?.map Choice.plain =
              offer'.choices[index]?.map Choice.plain := by
            rw [← List.getElem?_map, hchoices, List.getElem?_map]
          dsimp only
          generalize offer.choices[index]? = choice, offer'.choices[index]? = choice' at hchoice ⊢
          cases rel_of_map_eq hchoice with
          | none => exact hignored
          | some hsame =>
              obtain ⟨-, -, henabled, -, htarget⟩ := Choice.mk.inj hsame
              dsimp only
              rw [henabled]
              split
              · exact h.same_bind_shown (h.same_choose hp hnode htarget _ _)
              · exact hignored
      | _ => cases hdisplay

/-- The same trigger leads to the same fault, or to sessions that are the same but for what is
only read. -/
theorem Resembles.same_step (trigger : Trigger) :
    Outcome.SameBy Session.plain (story.step s trigger) (other.step t trigger) := by
  obtain ⟨hp, -⟩ := Session.mk.inj hs
  obtain ⟨-, hposition, -, -, hpast⟩ := Progress.plain_eq_iff.mp hp
  have hignored : Outcome.SameBy Session.plain (.ok s : Except Fault Session) (.ok t) := hs
  cases trigger with
  | select index => exact h.same_select hs index
  | restart => exact h.same_bind_shown (h.same_reenter hp h.start)
  | advance =>
      unfold step
      generalize s.progress.route.position = position, t.progress.route.position = position'
        at hposition ⊢
      cases Position.alike_of_plain_eq hposition with
      | displaying hn => exact h.same_bind_shown (h.same_advanceFrom hp hn)
      | offering => exact hignored
      | ended => exact hignored
  | back =>
      unfold step
      generalize s.progress.route.checkpoints = past, t.progress.route.checkpoints = past'
        at hpast ⊢
      cases forall₂_of_map_eq hpast with
      | nil => exact hignored
      | cons => exact h.same_shown (h.graph.plain_rewind hp)
  | jump id =>
      have hnode := h.graph.node? id
      unfold step
      dsimp only
      generalize story.graph.node? id = found, other.graph.node? id = found' at hnode ⊢
      cases hnode with
      | none => exact hignored
      | some hfound => exact h.same_bind_shown (h.same_reenter hp hfound)

theorem Resembles.plain_fire (trigger : Trigger) :
    (story.fire s trigger).1.map Display.plain = (other.fire t trigger).1.map Display.plain ∧
      (story.fire s trigger).2.plain = (other.fire t trigger).2.plain := by
  have hstep := h.same_step hs trigger
  unfold fire
  generalize story.step s trigger = attempted, other.step t trigger = attempted' at hstep ⊢
  cases attempted with
  | error fault =>
      cases attempted' with
      | error fault' => exact ⟨congrArg Except.error hstep, hs⟩
      | ok after' => exact hstep.elim
  | ok after =>
      cases attempted' with
      | error fault' => exact hstep.elim
      | ok after' =>
          obtain ⟨-, hdisplay⟩ := Session.mk.inj hstep
          exact ⟨congrArg Except.ok hdisplay, hstep⟩

theorem Resembles.plain_run (triggers : List Trigger) :
    (story.run s triggers).1.map (Except.map Display.plain) =
        (other.run t triggers).1.map (Except.map Display.plain) ∧
      (story.run s triggers).2.plain = (other.run t triggers).2.plain := by
  induction triggers generalizing s t with
  | nil => exact ⟨rfl, hs⟩
  | cons trigger triggers ih =>
      obtain ⟨hanswer, hafter⟩ := h.plain_fire hs trigger
      obtain ⟨hanswers, hlast⟩ := ih hafter
      exact ⟨congrArg₂ List.cons hanswer hanswers, hlast⟩

end Runs

section Documents

variable {document document' : Document} {settings : Settings}

theorem same_ofDocument (h : document.plain = document'.plain)
    (hmarks : document.nodes.map (·.mentions settings.startMarker) =
      document'.nodes.map (·.mentions settings.startMarker)) :
    Outcome.Same Resembles (ofDocument document settings) (ofDocument document' settings) := by
  apply Outcome.same_bind (Graph.same_ofDocument_of_plain_eq h)
  intro g other hg hother hgraph
  have hcandidates : (g.startCandidates settings.startMarker).map Node.plain =
      (other.startCandidates settings.startMarker).map Node.plain := by
    unfold Graph.startCandidates
    rw [Graph.document_of_ofDocument hg, Graph.document_of_ofDocument hother]
    exact Node.map_plain_filter_mentions (Graph.map_plain_nodes_eq h) hmarks
  apply Outcome.same_bind (Graph.same_findStart hcandidates settings.strictStart)
  intro start start' _ _ hstart
  exact ⟨hgraph, rfl, hstart⟩

theorem Resembles.same_opening {story other : Story} (h : story.Resembles other)
    (hnamespaces : story.graph.document.namespaces = other.graph.document.namespaces) :
    Outcome.SameBy Session.plain story.opening other.opening := by
  unfold opening
  rw [hnamespaces]
  exact h.same_bind_shown (h.same_reenter rfl h.start)

/-- Whether two readings go the same way. But for what is only read, the sessions are the same,
and so are all answers to any triggers, faults included, and the sessions after them. -/
def SameCourse (reading other : Story × Session) : Prop :=
  reading.2.plain = other.2.plain ∧ ∀ triggers,
    ((reading.1.operate triggers).run reading.2).1.map (Except.map Display.plain) =
        ((other.1.operate triggers).run other.2).1.map (Except.map Display.plain) ∧
      ((reading.1.operate triggers).run reading.2).2.plain =
        ((other.1.operate triggers).run other.2).2.plain

/-- Documents that are the same but for what is only read, and that have the start marker at the
same nodes, cannot be opened for the same fault, or go the same way for every reader. -/
theorem sameCourse_of_plain_eq (h : document.plain = document'.plain)
    (hmarks : document.nodes.map (·.mentions settings.startMarker) =
      document'.nodes.map (·.mentions settings.startMarker)) :
    Outcome.Same SameCourse (opened document settings) (opened document' settings) := by
  apply Outcome.same_bind (same_ofDocument h hmarks)
  intro story other hstory hother hresembles
  have hnamespaces : story.graph.document.namespaces = other.graph.document.namespaces := by
    rw [Graph.document_of_ofDocument (ofDocument_eq_ok hstory).1,
      Graph.document_of_ofDocument (ofDocument_eq_ok hother).1]
    exact congrArg (fun d => d.namespaces) h
  apply Outcome.same_bind (hresembles.same_opening hnamespaces)
  intro first first' _ _ hfirst
  refine ⟨hfirst, fun triggers => ?_⟩
  rw [run_operate, run_operate]
  exact hresembles.plain_run hfirst triggers

end Documents

/-- The crossroads with names, texts and labels on everything. -/
def inscribed : Document :=
  { crossroads with
    packages := crossroads.packages.map fun package =>
      { name := "Inscribed"
        nodes := package.nodes.map fun n =>
          { n with
            displayName := n.typeName
            text := "Here we are"
            speaker := some "Narrator"
            outputPins := n.outputPins.map fun pin =>
              { text := some "out"
                connections := pin.connections.map fun edge =>
                  { edge with label := some edge.target } } } } }

/-- The tour through the inscribed crossroads has something else to read, goes the same way and
ends in the same fault. -/
theorem sameCourse_of_plain_eq_inscribed :
    ∃ story first other otherFirst, opened crossroads {} = .ok (story, first) ∧
      opened inscribed {} = .ok (other, otherFirst) ∧
      first.display.node?.map Node.text = some "" ∧
      otherFirst.display.node?.map Node.text = some "Here we are" ∧
      SameCourse (story, first) (other, otherFirst) ∧
      ((story.operate tour).run first).1.getLast? =
        some (.error (.danglingEdge "hole" "nowhere")) ∧
      ((other.operate tour).run otherFirst).1.getLast? =
        some (.error (.danglingEdge "hole" "nowhere")) := by
  obtain ⟨story, first, other, otherFirst, hopened, hother, htext, hotherText, hlast, hotherLast⟩ :
    ∃ story first other otherFirst, opened crossroads {} = .ok (story, first) ∧
      opened inscribed {} = .ok (other, otherFirst) ∧
      first.display.node?.map Node.text = some "" ∧
      otherFirst.display.node?.map Node.text = some "Here we are" ∧
      (story.run first tour).1.getLast? = some (.error (.danglingEdge "hole" "nowhere")) ∧
      (other.run otherFirst tour).1.getLast? = some (.error (.danglingEdge "hole" "nowhere")) :=
    ⟨_, _, _, _, rfl, rfl, rfl, rfl, rfl, rfl⟩
  have hmarks : crossroads.nodes.map (·.mentions ({} : Settings).startMarker) =
      inscribed.nodes.map (·.mentions ({} : Settings).startMarker) := rfl
  have hplain : crossroads.plain = inscribed.plain := rfl
  have hsame := (@sameCourse_of_plain_eq crossroads inscribed {} hplain hmarks).of_ok hopened hother
  rw [← run_operate] at hlast hotherLast
  exact ⟨story, first, other, otherFirst, hopened, hother, htext, hotherText, hsame, hlast,
    hotherLast⟩

end Story

end Narrative
