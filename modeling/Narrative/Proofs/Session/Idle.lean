import Narrative.Proofs.Session.Transaction

/-!
Triggers without effect. A trigger that makes no sense where the reader stands is ignored,
and one that meets a fault is taken back. Neither leaves a trace in a session that is worked
on in place, so both can be left out of any run: the other triggers are answered as before,
and the run ends in the same session.
-/

namespace Narrative

/-- The items at the marked places. -/
def marked {α : Type} : List Bool → List α → List α
  | mark :: marks, item :: items => if mark then item :: marked marks items else marked marks items
  | _, _ => []

namespace Story

variable {story : Story} {s : Session} {t : Trigger}

/-- The triggers that make no sense where the reader stands. -/
inductive Ignored (story : Story) (s : Session) : Trigger → Prop where
  | advance (h : ∀ n, s.progress.route.position ≠ .displaying n) : Ignored story s .advance
  | noChoices {index : Nat} (h : ∀ offer, s.display ≠ .choices offer) :
      Ignored story s (.select index)
  | outOfRange {index : Nat} {offer : Offer} (hdisplay : s.display = .choices offer)
      (h : offer.choices.length ≤ index) : Ignored story s (.select index)
  | disabled {index : Nat} {offer : Offer} {choice : Choice}
      (hdisplay : s.display = .choices offer) (hchoice : offer.choices[index]? = some choice)
      (h : choice.enabled = false) : Ignored story s (.select index)
  | back (h : s.progress.route.checkpoints = []) : Ignored story s .back
  | jump {id : String} (h : story.graph.node? id = none) : Ignored story s (.jump id)

/-- Whether a trigger makes no sense where the reader stands, decided. -/
def ignores (story : Story) (s : Session) : Trigger → Bool
  | .advance =>
    match s.progress.route.position with
    | .displaying _ => false
    | _ => true
  | .select index =>
    match s.display with
    | .choices offer => !offer.choices[index]?.any Choice.enabled
    | _ => true
  | .back => s.progress.route.checkpoints.isEmpty
  | .jump id => (story.graph.node? id).isNone
  | .restart => false

theorem ignored_of_ignores (h : story.ignores s t = true) : story.Ignored s t := by
  cases t with
  | advance =>
      apply Ignored.advance
      intro n hposition
      simp [ignores, hposition] at h
  | select index =>
      cases hdisplay : s.display with
      | content c => exact .noChoices (by simp [hdisplay])
      | ended => exact .noChoices (by simp [hdisplay])
      | choices offer =>
          cases hchoice : offer.choices[index]? with
          | none => exact .outOfRange hdisplay (by simpa using hchoice)
          | some choice =>
              exact .disabled hdisplay hchoice (by simpa [ignores, hdisplay, hchoice] using h)
  | back => exact .back (by simpa [ignores] using h)
  | jump id => exact .jump (by simpa [ignores] using h)
  | restart => simp [ignores] at h

theorem ignores_of_ignored (h : story.Ignored s t) : story.ignores s t = true := by
  cases h with
  | advance hposition =>
      cases heq : s.progress.route.position with
      | displaying n => exact absurd heq (hposition n)
      | offering n => simp only [ignores, heq]
      | ended => simp only [ignores, heq]
  | noChoices hdisplay =>
      cases heq : s.display with
      | choices offer => exact absurd heq (hdisplay offer)
      | content c => simp only [ignores, heq]
      | ended => simp only [ignores, heq]
  | outOfRange hdisplay hlength => simp [ignores, hdisplay, List.getElem?_eq_none hlength]
  | disabled hdisplay hchoice hdisabled => simp [ignores, hdisplay, hchoice, hdisabled]
  | back hpast => simp [ignores, hpast]
  | jump hnode => simp [ignores, hnode]

instance (story : Story) (s : Session) (t : Trigger) : Decidable (story.Ignored s t) :=
  decidable_of_iff _ ⟨ignored_of_ignores, ignores_of_ignored⟩

/-- An ignored trigger is answered with what is shown already. -/
theorem step_of_ignored (h : story.Ignored s t) : story.step s t = .ok s := by
  cases h with
  | advance hposition =>
      cases heq : s.progress.route.position with
      | displaying n => exact absurd heq (hposition n)
      | offering n => simp only [step, heq]
      | ended => simp only [step, heq]
  | noChoices hdisplay =>
      cases heq : s.display with
      | choices offer => exact absurd heq (hdisplay offer)
      | content c => simp only [step, heq]
      | ended => simp only [step, heq]
  | outOfRange hdisplay hlength => simp only [step, hdisplay, List.getElem?_eq_none hlength]
  | disabled hdisplay hchoice hdisabled => simp [step, hdisplay, hchoice, hdisabled]
  | back hpast => simp only [step, hpast]
  | jump hnode => simp only [step, hnode]

/-- Whether a trigger is without effect: it is ignored, or its answer is a fault. -/
def Idle (story : Story) (s : Session) (t : Trigger) : Prop :=
  story.Ignored s t ∨ ∃ fault, ((story.transact t).run s).1 = .error fault

instance (story : Story) (s : Session) (t : Trigger) : Decidable (story.Idle s t) :=
  decidable_of_iff
    (story.Ignored s t ∨ ((story.transact t).run s).1.toOption.isNone = true) (by
      unfold Idle
      cases ((story.transact t).run s).1 <;> simp [Except.toOption])

/-- Which triggers of a run are not idle, each in the session in which it comes. -/
def lasting (story : Story) (s : Session) : List Trigger → List Bool
  | [] => []
  | t :: triggers =>
    (!decide (story.Idle s t)) :: story.lasting ((story.transact t).run s).2 triggers

theorem run_transact_of_idle (h : story.Idle s t) : ((story.transact t).run s).2 = s := by
  unfold Idle at h
  rw [run_transact] at h ⊢
  rcases h with hignored | ⟨fault, hfault⟩
  · rw [fire_of_ok (step_of_ignored hignored)]
  · cases hstep : story.step s t with
    | error other => rw [fire_of_error hstep]
    | ok after => simp [fire_of_ok hstep] at hfault

theorem run_operate_cons (t : Trigger) (triggers : List Trigger) (s : Session) :
    (story.operate (t :: triggers)).run s =
      (((story.transact t).run s).1 ::
          ((story.operate triggers).run ((story.transact t).run s).2).1,
        ((story.operate triggers).run ((story.transact t).run s).2).2) := by
  simp only [run_operate, run_transact]
  rfl

/-- In every session, a trigger that is ignored or ends in a fault leaves the session exactly
as it was. In every run, the triggers that are not such are answered the same without them,
and end in the same session. -/
theorem operate_marked_lasting (story : Story) (s : Session) (triggers : List Trigger) :
    (∀ t, story.Idle s t → ((story.transact t).run s).2 = s) ∧
      (story.operate (marked (story.lasting s triggers) triggers)).run s =
        (marked (story.lasting s triggers) ((story.operate triggers).run s).1,
          ((story.operate triggers).run s).2) := by
  refine ⟨fun t => run_transact_of_idle, ?_⟩
  induction triggers generalizing s with
  | nil => rfl
  | cons t triggers ih =>
      by_cases hidle : story.Idle s t
      · have hsame := run_transact_of_idle hidle
        simp only [lasting, run_operate_cons, hidle, hsame, marked, decide_true, Bool.not_true,
          Bool.false_eq_true, if_false]
        exact ih s
      · simp only [lasting, run_operate_cons, hidle, marked, decide_false, Bool.not_false, if_true,
          ih]

/-- Going back at the very start is ignored, and the last choice of the tour ends in a fault:
without both of them the tour ends in the same session. -/
theorem operate_marked_lasting_of_tour :
    ∃ story first, opened crossroads {} = .ok (story, first) ∧
      story.lasting first (.back :: tour) = [false, true, true, true, true, true, false] ∧
      ((story.transact .back).run first).2 = first ∧
      ((story.operate [.advance, .select 0, .advance, .select 1, .advance]).run first).2 =
        ((story.operate (.back :: tour)).run first).2 := by
  obtain ⟨story, first, hopened, hpast, hmarks⟩ : ∃ story first,
      opened crossroads {} = .ok (story, first) ∧ first.progress.route.checkpoints = [] ∧
        story.lasting first (.back :: tour) = [false, true, true, true, true, true, false] :=
    ⟨_, _, rfl, rfl, by decide +kernel⟩
  obtain ⟨hidle, hrest⟩ := operate_marked_lasting story first (.back :: tour)
  rw [hmarks] at hrest
  have hlast := congrArg Prod.snd hrest
  exact ⟨story, first, hopened, hmarks, hidle .back (.inl (.back hpast)), hlast⟩

end Story

end Narrative
