import Narrative.Proofs.Session.Idle

/-!
The budget of automatic hops. A larger budget changes nothing but where a reader is cut off: as
long as no answer with the smaller budget is a cut-off, both readers get the same answers, other
faults included, and are in the same session after each of them.
-/

namespace Narrative

namespace Outcome

variable {α β : Type} {x x' : Except Fault α}

/-- Whether an outcome is that the budget was exceeded. -/
def CutOff (x : Except Fault α) : Prop :=
  ∃ node budget, x = .error (.stepBudgetExceeded node budget)

/-- Whether the second outcome is the first one, unless that one was cut off. -/
def Outlasts (x x' : Except Fault α) : Prop :=
  CutOff x ∨ x = x'

theorem Outlasts.rfl : Outlasts x x :=
  .inr (Eq.refl x)

theorem outlasts_bind {f f' : α → Except Fault β} (hx : Outlasts x x')
    (hf : ∀ a, x = .ok a → Outlasts (f a) (f' a)) : Outlasts (x >>= f) (x' >>= f') := by
  rcases hx with ⟨node, budget, hcut⟩ | heq
  · rw [hcut]
    exact .inl ⟨node, budget, Eq.refl _⟩
  · rw [← heq]
    cases x with
    | error fault => exact .rfl
    | ok a => exact hf a (Eq.refl _)

end Outcome

namespace Graph

open Outcome

variable {g : Graph} {store : Store}

/-- A reader who comes to rest, or meets a fault, within some hops does so within more hops. -/
theorem outlasts_settleWithin {left more : Nat} (hmore : left ≤ more) (budget larger : Nat)
    (containers : List Node) (n : Node) :
    Outlasts (g.settleWithin store budget left containers n)
      (g.settleWithin store larger more containers n) := by
  induction left generalizing more containers n with
  | zero =>
      cases hhop : g.hop store containers n with
      | error fault =>
          right
          cases more <;> simp only [settleWithin, hhop]
      | ok hop =>
          cases hop with
          | rest position after =>
              right
              cases more <;> simp only [settleWithin, hhop]
          | on next after =>
              left
              exact ⟨n.id, budget, by simp only [settleWithin, hhop]⟩
  | succ left ih =>
      obtain ⟨more, rfl⟩ := Nat.exists_eq_add_one_of_ne_zero (Nat.ne_zero_of_lt hmore)
      cases hhop : g.hop store containers n with
      | error fault =>
          right
          simp only [settleWithin, hhop]
      | ok hop =>
          cases hop with
          | rest position after =>
              right
              simp only [settleWithin, hhop]
          | on next after =>
              simpa only [settleWithin, hhop] using
                ih (Nat.le_of_succ_le_succ hmore) after next

end Graph

/-- The settings with another budget. -/
def Settings.allowing (s : Settings) (budget : Nat) : Settings :=
  { s with maxAutoSteps := budget }

namespace Story

open Outcome

def allowing (story : Story) (budget : Nat) : Story :=
  { story with settings := story.settings.allowing budget }

/-- A trigger whose effect outlasts that of another one, be it of the same story or not, is
answered alike and leaves the same session, unless the other one is cut off. -/
theorem cutOff_or_transact_eq_of_outlasts {story other : Story} {s : Session} {t t' : Trigger}
    (h : Outlasts (story.step s t) (other.step s t')) :
    CutOff ((story.transact t).run s).1 ∨
      (other.transact t').run s = (story.transact t).run s := by
  simp only [run_transact]
  rcases h with ⟨node, budget, hcut⟩ | heq
  · rw [fire_of_error hcut]
    exact .inl ⟨node, budget, rfl⟩
  · right
    unfold fire
    rw [heq]

section Moves

variable {story : Story} {budget : Nat} (hbudget : story.settings.maxAutoSteps ≤ budget)

include hbudget

theorem outlasts_enter (p : Progress) (n : Node) :
    Outlasts (story.enter p n) ((story.allowing budget).enter p n) := by
  unfold enter
  apply outlasts_bind (Graph.outlasts_settleWithin hbudget _ _ _ _)
  intro rest _
  exact .rfl

theorem outlasts_reenter (p : Progress) (n : Node) :
    Outlasts (story.reenter p n) ((story.allowing budget).reenter p n) :=
  outlasts_enter hbudget _ n

theorem outlasts_advanceFrom (p : Progress) (n : Node) :
    Outlasts (story.advanceFrom p n) ((story.allowing budget).advanceFrom p n) := by
  unfold advanceFrom
  dsimp only [allowing]
  split
  · exact .rfl
  · split
    · exact .rfl
    · apply outlasts_bind .rfl
      intro next _
      exact outlasts_enter hbudget _ next
    · exact .rfl

theorem outlasts_choose (p : Progress) (offering target : Node) (text : String) :
    Outlasts (story.choose p offering target text)
      ((story.allowing budget).choose p offering target text) := by
  unfold choose
  dsimp only [allowing]
  split
  · apply outlasts_bind .rfl
    intro next _
    split
    · apply outlasts_bind .rfl
      intro performed _
      exact outlasts_enter hbudget _ next
    · exact outlasts_enter hbudget _ next
  · exact outlasts_enter hbudget _ target

theorem outlasts_step (s : Session) (t : Trigger) :
    Outlasts (story.step s t) ((story.allowing budget).step s t) := by
  have hshown {x x' : Except Fault Progress} (hx : Outlasts x x') :
      Outlasts (x >>= story.shown) (x' >>= (story.allowing budget).shown) :=
    outlasts_bind hx fun _ _ => .rfl
  unfold step
  cases t with
  | advance =>
      dsimp only
      split
      · exact hshown (outlasts_advanceFrom hbudget _ _)
      · exact .rfl
  | select index =>
      dsimp only
      split
      · split
        · split
          · exact hshown (outlasts_choose hbudget _ _ _ _)
          · exact .rfl
        · exact .rfl
      · exact .rfl
  | back => exact .rfl
  | jump id =>
      dsimp only [allowing]
      split
      · exact hshown (outlasts_reenter hbudget _ _)
      · exact .rfl
  | restart => exact hshown (outlasts_reenter hbudget _ _)

theorem outlasts_opening : Outlasts story.opening (story.allowing budget).opening :=
  outlasts_bind (outlasts_reenter hbudget _ _) fun _ _ => .rfl

/-- A trigger that is not cut off is answered the same with a larger budget, and leaves the same
session. -/
theorem cutOff_or_transact_eq (s : Session) (t : Trigger) :
    CutOff ((story.transact t).run s).1 ∨
      ((story.allowing budget).transact t).run s = (story.transact t).run s :=
  cutOff_or_transact_eq_of_outlasts (outlasts_step hbudget s t)

/-- Triggers none of which is cut off are answered the same with a larger budget, and lead to the
same session. -/
theorem operate_eq_of_not_cutOff (s : Session) (triggers : List Trigger)
    (h : ∀ answer ∈ ((story.operate triggers).run s).1, ¬CutOff answer) :
    ((story.allowing budget).operate triggers).run s = (story.operate triggers).run s := by
  induction triggers generalizing s with
  | nil => rfl
  | cons t triggers ih =>
      rw [run_operate_cons] at h
      obtain ⟨hfirst, hothers⟩ := List.forall_mem_cons.mp h
      rw [run_operate_cons, run_operate_cons,
        (cutOff_or_transact_eq hbudget s t).resolve_left hfirst, ih _ hothers]

end Moves

variable {document : Document} {settings : Settings} {budget : Nat}

theorem ofDocument_allowing (document : Document) (settings : Settings) (budget : Nat) :
    ofDocument document (settings.allowing budget) =
      (ofDocument document settings).map fun story => story.allowing budget := by
  unfold ofDocument
  cases Graph.ofDocument document with
  | error fault => rfl
  | ok g =>
      dsimp only [Settings.allowing, bind, Except.bind]
      cases g.findStart settings.startMarker settings.strictStart <;> rfl

/-- Two readings of a document that go on alike. After any triggers none of which was cut off in
the first, both have given the same answers and are in the same session; and unless the next
trigger is cut off there, both give it the same answer and are in the same session again. -/
def LikeUntilCutOff (reading longer : Story × Session) : Prop :=
  ∀ triggers, (∀ answer ∈ ((reading.1.operate triggers).run reading.2).1, ¬CutOff answer) →
    (longer.1.operate triggers).run longer.2 = (reading.1.operate triggers).run reading.2 ∧
      ∀ t, CutOff ((reading.1.transact t).run ((reading.1.operate triggers).run reading.2).2).1 ∨
        (longer.1.transact t).run ((longer.1.operate triggers).run longer.2).2 =
          (reading.1.transact t).run ((reading.1.operate triggers).run reading.2).2

/-- A document that is opened with a larger budget is read the same until the reader with the
smaller budget is cut off: at the start, in which case nothing is said, or at a trigger, before
which both readers are in the same session. Faults other than a cut-off are the same for both. -/
theorem likeUntilCutOff_of_le (h : settings.maxAutoSteps ≤ budget) :
    CutOff (opened document settings) ∨
      Outcome.Same LikeUntilCutOff (opened document settings)
        (opened document (settings.allowing budget)) := by
  unfold opened
  rw [ofDocument_allowing]
  cases hstory : ofDocument document settings with
  | error fault => exact .inr rfl
  | ok story =>
      obtain ⟨-, rfl, -⟩ := ofDocument_eq_ok hstory
      change CutOff (story.opening >>= fun first => .ok (story, first)) ∨
        Outcome.Same LikeUntilCutOff (story.opening >>= fun first => .ok (story, first))
          ((story.allowing budget).opening >>= fun first => .ok (story.allowing budget, first))
      rcases outlasts_opening h with ⟨node, allowed, hcut⟩ | heq
      · rw [hcut]
        exact .inl ⟨node, allowed, rfl⟩
      · right
        rw [← heq]
        apply Outcome.same_bind_of_eq
        intro first _ triggers hnone
        have hsame := operate_eq_of_not_cutOff h first triggers hnone
        refine ⟨hsame, ?_⟩
        intro t
        rw [hsame]
        exact cutOff_or_transact_eq h _ t

/-- With a single hop allowed the tour is cut off on the way to the bed, at the second trigger.
Before it the reader is in the same session as one with the usual budget. -/
theorem likeUntilCutOff_of_le_single :
    ∃ story first longer same, opened crossroads { maxAutoSteps := 1 } = .ok (story, first) ∧
      opened crossroads {} = .ok (longer, same) ∧
      ((story.transact (.select 0)).run ((story.operate [.advance]).run first).2).1 =
        .error (.stepBudgetExceeded "room" 1) ∧
      (longer.operate [.advance]).run same = (story.operate [.advance]).run first := by
  obtain ⟨story, first, longer, same, display, hopened, hlonger, hanswers, hcut⟩ :
    ∃ story first longer same display,
      opened crossroads { maxAutoSteps := 1 } = .ok (story, first) ∧
      opened crossroads {} = .ok (longer, same) ∧
      (story.run first [.advance]).1 = [.ok display] ∧
      (story.fire (story.run first [.advance]).2 (.select 0)).1 =
        .error (.stepBudgetExceeded "room" 1) := ⟨_, _, _, _, _, rfl, rfl, rfl, rfl⟩
  rw [← run_transact, ← run_operate] at hcut
  refine ⟨story, first, longer, same, hopened, hlonger, hcut, ?_⟩
  have hle : ({ maxAutoSteps := 1 } : Settings).maxAutoSteps ≤ 256 := by decide
  rcases likeUntilCutOff_of_le hle with ⟨node, allowed, hstart⟩ | hlike
  · cases hopened.symm.trans hstart
  · refine (hlike.of_ok hopened hlonger [.advance] ?_).1
    rw [run_operate, hanswers]
    rintro answer hmem ⟨node, allowed, hfault⟩
    cases (List.mem_singleton.mp hmem).symm.trans hfault

end Story

end Narrative
