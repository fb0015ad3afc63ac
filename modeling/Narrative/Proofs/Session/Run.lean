import Narrative.Proofs.Outcome
import Narrative.Session.Story

/-!
Runs. A run is what a reader of a document does after a start: any triggers in any
order, some of which may be ignored or end in a fault. What holds after the start
and is kept by every trigger that takes effect holds in every session of every run.
The triggers that take effect are told apart here once; everything else goes by them.
-/

namespace Narrative

namespace Story

/-- A document opened for a reader: the story that it is made ready as, and the reader
who has just started in it. -/
def opened (document : Document) (settings : Settings) : Except Fault (Story × Session) := do
  let story ← ofDocument document settings
  let first ← story.opening
  return (story, first)

/-- The sessions of the readers of a document: those after a start and any triggers. -/
def Reachable (document : Document) (settings : Settings) (story : Story) (s : Session) : Prop :=
  ∃ first triggers, opened document settings = .ok (story, first) ∧
    (story.run first triggers).2 = s

/-- What a trigger attempts where it makes sense: the progress that it comes to, or the
fault that it meets on the way. -/
inductive Attempt (story : Story) (s : Session) : Trigger → Except Fault Progress → Prop where
  | advance {n : Node} (hposition : s.progress.route.position = .displaying n) :
      Attempt story s .advance (story.advanceFrom s.progress n)
  | select {index : Nat} {offer : Offer} {choice : Choice} (hdisplay : s.display = .choices offer)
      (hchoice : offer.choices[index]? = some choice) (henabled : choice.enabled = true) :
      Attempt story s (.select index)
        (story.choose s.progress offer.node choice.target choice.text)
  | back (hpast : s.progress.route.checkpoints ≠ []) :
      Attempt story s .back (.ok (story.graph.rewind s.progress))
  | jump {id : String} {n : Node} (hnode : story.graph.node? id = some n) :
      Attempt story s (.jump id) (story.reenter s.progress n)
  | restart : Attempt story s .restart (story.reenter s.progress story.start)

/-- A trigger is either ignored, or what it attempts is shown. -/
theorem step_cases (story : Story) (s : Session) (t : Trigger) :
    story.step s t = .ok s ∨
      ∃ attempted, Attempt story s t attempted ∧
        story.step s t = attempted >>= story.shown := by
  cases t with
  | advance =>
      cases hposition : s.progress.route.position with
      | displaying n => exact .inr ⟨_, .advance hposition, by simp only [step, hposition]⟩
      | offering n => exact .inl (by simp only [step, hposition])
      | ended => exact .inl (by simp only [step, hposition])
  | select index =>
      cases hdisplay : s.display with
      | content c => exact .inl (by simp only [step, hdisplay])
      | ended => exact .inl (by simp only [step, hdisplay])
      | choices offer =>
          cases hchoice : offer.choices[index]? with
          | none => exact .inl (by simp only [step, hdisplay, hchoice])
          | some choice =>
              by_cases henabled : choice.enabled = true
              · refine .inr ⟨_, .select hdisplay hchoice henabled, ?_⟩
                simp only [step, hdisplay, hchoice, henabled, if_true]
              · left
                simp [step, hdisplay, hchoice, henabled]
  | back =>
      cases hpast : s.progress.route.checkpoints with
      | nil => exact .inl (by simp only [step, hpast])
      | cons checkpoint checkpoints =>
          refine .inr ⟨_, .back (by simp [hpast]), ?_⟩
          simp only [step, hpast]
          rfl
  | jump id =>
      cases hnode : story.graph.node? id with
      | none => exact .inl (by simp only [step, hnode])
      | some n => exact .inr ⟨_, .jump hnode, by simp only [step, hnode]⟩
  | restart => exact .inr ⟨_, .restart, rfl⟩

theorem step_eq_ok {story : Story} {s after : Session} {t : Trigger}
    (h : story.step s t = .ok after) :
    after = s ∨ ∃ p, Attempt story s t (.ok p) ∧ story.shown p = .ok after := by
  rcases step_cases story s t with hignored | ⟨attempted, hattempt, hstep⟩
  · rw [hignored] at h
    cases h
    exact .inl rfl
  · rw [hstep, Outcome.bind_eq_ok_iff] at h
    obtain ⟨p, rfl, hshown⟩ := h
    exact .inr ⟨p, hattempt, hshown⟩

/-- A fault of a trigger is met in its attempt, or when its result is to be shown. -/
theorem step_eq_error {story : Story} {s : Session} {t : Trigger} {fault : Fault}
    (h : story.step s t = .error fault) :
    Attempt story s t (.error fault) ∨
      ∃ p, Attempt story s t (.ok p) ∧ story.shown p = .error fault := by
  rcases step_cases story s t with hignored | ⟨attempted, hattempt, hstep⟩
  · rw [hignored] at h
    cases h
  · rw [hstep, Outcome.bind_eq_error_iff] at h
    rcases h with rfl | ⟨p, rfl, hshown⟩
    · exact .inl hattempt
    · exact .inr ⟨p, hattempt, hshown⟩

theorem fire_of_ok {story : Story} {s after : Session} {t : Trigger}
    (h : story.step s t = .ok after) : story.fire s t = (.ok after.display, after) := by
  simp [fire, h]

theorem shown_eq_ok {story : Story} {p : Progress} {s : Session} (h : story.shown p = .ok s) :
    s.progress = p ∧ story.graph.render p = .ok s.display := by
  obtain ⟨display, hdisplay, rfl⟩ := Outcome.map_eq_ok_iff.mp h
  exact ⟨rfl, hdisplay⟩

/-- What every trigger that takes effect keeps, a whole run keeps. -/
theorem run_keeps {story : Story} {P : Session → Prop}
    (hstep : ∀ s t after, P s → story.step s t = .ok after → P after)
    {s : Session} (hs : P s) (triggers : List Trigger) : P (story.run s triggers).2 := by
  induction triggers generalizing s with
  | nil => exact hs
  | cons t triggers ih =>
      apply ih
      cases h : story.step s t with
      | error fault => simpa [fire_of_error h] using hs
      | ok after => simpa [fire_of_ok h] using hstep s t after hs h

theorem opened_eq_ok_iff {document : Document} {settings : Settings} {story : Story}
    {first : Session} :
    opened document settings = .ok (story, first) ↔
      ofDocument document settings = .ok story ∧ story.opening = .ok first := by
  simp only [opened, Outcome.bind_eq_ok_iff, pure, Except.pure, Except.ok.injEq, Prod.mk.injEq]
  constructor
  · rintro ⟨_, hstory, _, hfirst, rfl, rfl⟩
    exact ⟨hstory, hfirst⟩
  · rintro ⟨hstory, hfirst⟩
    exact ⟨story, hstory, first, hfirst, rfl, rfl⟩

theorem ofDocument_eq_ok {document : Document} {settings : Settings} {story : Story}
    (h : ofDocument document settings = .ok story) :
    Graph.ofDocument document = .ok story.graph ∧ story.settings = settings ∧
      story.graph.findStart settings.startMarker settings.strictStart = .ok story.start := by
  simp only [ofDocument, Outcome.bind_eq_ok_iff, pure, Except.pure, Except.ok.injEq] at h
  obtain ⟨graph, hgraph, start, hstart, rfl⟩ := h
  exact ⟨hgraph, rfl, hstart⟩

end Story

/-- A small narrative with an instruction, a hub, a condition, a container, a guarded line
and a jump that leads nowhere. -/
def crossroads : Document where
  namespaces := [⟨"Flags", [⟨"Open", .bool false⟩]⟩]
  packages := [{
    name := "Main"
    nodes := [
      { id := "gate", typeName := "Instruction", expression := "// @start\nFlags.Open = true;",
        outputPins := [{ connections := [{ target := "hub" }] }] },
      { id := "hub", typeName := "Hub",
        outputPins := [{ connections := [{ target := "key" }, { target := "talk" }] }] },
      { id := "key", typeName := "Instruction", expression := "Items.Key = silver",
        outputPins := [{ connections := [{ target := "door" }] }] },
      { id := "door", typeName := "Condition", expression := "Items.Key == silver",
        outputPins := [{ connections := [{ target := "room" }] },
          { connections := [{ target := "talk" }] }] },
      { id := "room", typeName := "FlowFragment",
        outputPins := [{ connections := [{ target := "hub" }] }] },
      { id := "bed", typeName := "DialogueFragment",
        outputPins := [{ connections := [{ target := "room" }] }] },
      { id := "talk", typeName := "DialogueFragment",
        inputPins := [{ text := "Flags.Open == true" }],
        outputPins := [{ connections := [{ target := "hub" }, { target := "hole" }] }] },
      { id := "hole", typeName := "Jump", target := "nowhere" }] }]
  outline := .entry "" [.entry "room" [.entry "bed" []]]

/-- A way through the crossroads that takes every kind of node; its last choice leads to
the jump and ends in a fault. -/
def tour : List Trigger :=
  [.advance, .select 0, .advance, .select 1, .advance, .select 1]

end Narrative
