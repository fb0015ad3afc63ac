import Narrative.Proofs.Session.Run
import Narrative.Session.Transaction

/-!
Work in place takes effect as a whole or not at all. Each move in place comes to the
progress that it is to come to, or to the same fault, and on the way it touches neither
what is shown nor the declared variables. So what is put back after a fault is all that
can have changed, and a trigger in place answers and leaves the session as it should.
-/

namespace Narrative

/-- Two sessions with the same display and the same declared variables. -/
structure Session.SameFrame (s t : Session) : Prop where
  display : t.display = s.display
  initial : t.progress.store.initial = s.progress.store.initial

theorem Session.SameFrame.trans {s t u : Session} (hst : s.SameFrame t) (htu : t.SameFrame u) :
    s.SameFrame u :=
  ⟨htu.display.trans hst.display, htu.initial.trans hst.initial⟩

/-- The progress with other containers open. -/
def Progress.within (p : Progress) (containers : List Node) : Progress :=
  { p with route := { p.route with containers } }

namespace Graph

/-- The progress of a reader who comes to rest. An instruction that is then shown is
performed. -/
def arrive (g : Graph) (p : Progress) : Position × List Node → Except Fault Progress
  | (position, containers) =>
    let p := { p with route := { p.route with position, containers } }
    match position with
    | .displaying shown => if g.kindOf shown = .instruction then p.perform shown else .ok p
    | _ => .ok p

/-- Where a hop leads to, and the progress of a reader who has been led there in place: an
instruction is performed before the reader stands there. -/
def exit (g : Graph) (p : Progress) : Hop → Except Fault (Exit × Progress)
  | .on next containers => .ok (.next next, p.within containers)
  | .rest position containers =>
    match position with
    | .displaying shown =>
      if g.kindOf shown = .instruction then
        ((p.within containers).perform shown).map fun q => (.rest position, q)
      else .ok (.rest position, p.within containers)
    | _ => .ok (.rest position, p.within containers)

/-- What remains of settling after a hop in place from a node. -/
def settleAfter (g : Graph) (budget left : Nat) (n : Node) :
    Exit × Progress → Except Fault Progress
  | (.rest position, p) => .ok { p with route := p.route.standAt position }
  | (.next next, p) =>
    match left with
    | 0 => .error (.stepBudgetExceeded n.id budget)
    | left + 1 => g.settleWithin p.store budget left p.route.containers next >>= g.arrive p

variable {g : Graph}

theorem arrive_within (p : Progress) (containers : List Node) :
    g.arrive (p.within containers) = g.arrive p := by
  funext ⟨position, after⟩
  rfl

theorem exit_rest_bind (budget left : Nat) (n : Node) (p : Progress) (position : Position)
    (containers : List Node) :
    g.exit p (.rest position containers) >>= g.settleAfter budget left n =
      g.arrive p (position, containers) := by
  cases position with
  | displaying shown =>
      simp only [exit, arrive]
      split
      · unfold Progress.perform
        cases Fault.ofScript shown.id (Script.assignments shown.expression) <;> rfl
      · rfl
  | offering offering => rfl
  | ended => rfl

/-- Settling begins with a hop. That an instruction is performed within the hop or after the
reader has come to rest makes no difference. -/
theorem settleWithin_bind_arrive (budget left : Nat) (n : Node) (p : Progress) :
    g.settleWithin p.store budget left p.route.containers n >>= g.arrive p =
      (g.hop p.store p.route.containers n >>= g.exit p) >>= g.settleAfter budget left n := by
  cases left with
  | zero =>
      unfold settleWithin
      cases g.hop p.store p.route.containers n with
      | error fault => rfl
      | ok hop =>
          cases hop with
          | on next containers => rfl
          | rest position containers => exact (exit_rest_bind budget 0 n p position containers).symm
  | succ left =>
      unfold settleWithin
      cases g.hop p.store p.route.containers n with
      | error fault => rfl
      | ok hop =>
          cases hop with
          | on next containers =>
              change _ = g.settleWithin p.store budget left containers next >>=
                g.arrive (p.within containers)
              rw [arrive_within]
          | rest position containers =>
              exact (exit_rest_bind budget (left + 1) n p position containers).symm

end Graph

namespace Work

variable {α β : Type} {s t : Session} {expected : Except Fault Progress} {n : Node}

/-- A checkpoint is made and the node is moved past: the reader has left it. -/
theorem run_leave (n : Node) (text : String) (isChoice : Bool) (skipped : Option Node)
    (rest : Work α) (s : Session) :
    (do mark n text isChoice skipped; pass n; rest).run s =
      rest.run { s with progress := s.progress.leave n text isChoice skipped } := rfl

/-- Whether work that began at a session has come to the expected value and progress, or to
the expected fault, and has touched neither what is shown nor the declared variables. -/
def Meets (s : Session) (expected : Except Fault (α × Progress)) :
    EStateM.Result Fault Session α → Prop
  | .ok a t => expected = .ok (a, t.progress) ∧ s.SameFrame t
  | .error fault t => expected = .error fault ∧ s.SameFrame t

/-- The same of a move, which has no value. -/
def MeetsMove (s : Session) (expected : Except Fault Progress) :
    EStateM.Result Fault Session Unit → Prop :=
  Meets s (expected.map fun p => ((), p))

theorem Meets.of_sameFrame {expected : Except Fault (α × Progress)}
    {result : EStateM.Result Fault Session α} (h : Meets t expected result)
    (hframe : s.SameFrame t) : Meets s expected result := by
  cases result with
  | ok a after => exact ⟨h.1, hframe.trans h.2⟩
  | error fault after => exact ⟨h.1, hframe.trans h.2⟩

theorem Meets.bind {work : Work α} {rest : α → Work β} {expected : Except Fault (α × Progress)}
    {continued : α × Progress → Except Fault (β × Progress)}
    (hwork : Meets s expected (work.run s))
    (hrest : ∀ a t, Meets t (continued (a, t.progress)) ((rest a).run t)) :
    Meets s (expected >>= continued) ((work >>= rest).run s) := by
  rw [EStateM.run_bind]
  cases hrun : work.run s with
  | ok a t =>
      rw [hrun] at hwork
      rw [hwork.1]
      exact (hrest a t).of_sameFrame hwork.2
  | error fault t =>
      rw [hrun] at hwork
      rw [hwork.1]
      exact ⟨rfl, hwork.2⟩

/-- Work whose value is handed on to a move. -/
theorem Meets.bind_move {work : Work α} {rest : α → Work Unit}
    {expected : Except Fault (α × Progress)} {continued : α × Progress → Except Fault Progress}
    (hwork : Meets s expected (work.run s))
    (hrest : ∀ a t, MeetsMove t (continued (a, t.progress)) ((rest a).run t)) :
    MeetsMove s (expected >>= continued) ((work >>= rest).run s) := by
  have hmap : (expected >>= continued).map (fun p => ((), p)) =
      expected >>= fun ap => (continued ap).map fun p => ((), p) := by
    cases expected <;> rfl
  rw [MeetsMove, hmap]
  exact hwork.bind hrest

theorem MeetsMove.bind {move rest : Work Unit} {continued : Progress → Except Fault Progress}
    (hmove : MeetsMove s expected (move.run s))
    (hrest : ∀ t, MeetsMove t (continued t.progress) (rest.run t)) :
    MeetsMove s (expected >>= continued) ((do move; rest).run s) := by
  have hpairs : expected >>= continued =
      expected.map (fun p => ((), p)) >>= fun ap => continued ap.2 := by
    cases expected <;> rfl
  rw [hpairs]
  exact Meets.bind_move hmove fun _ t => hrest t

/-- A move that succeeds has come to the expected progress and changed nothing else. -/
theorem MeetsMove.eq_ok_iff {result : EStateM.Result Fault Session Unit}
    (h : MeetsMove s expected result) :
    result = .ok () t ↔ ∃ p, expected = .ok p ∧ t = { s with progress := p } := by
  cases result with
  | ok a after =>
      obtain ⟨hexpected, hframe⟩ := h
      obtain ⟨p, rfl, heq⟩ := Outcome.map_eq_ok_iff.mp hexpected
      cases heq
      obtain ⟨progress, display⟩ := after
      cases hframe.display
      simp [eq_comm]
  | error fault after => simp [Outcome.map_eq_error_iff.mp h.1]

theorem MeetsMove.exists_eq_error_iff {result : EStateM.Result Fault Session Unit}
    (h : MeetsMove s expected result) {fault : Fault} :
    (∃ after, result = .error fault after) ↔ expected = .error fault := by
  cases result with
  | ok a after =>
      obtain ⟨p, rfl, -⟩ := Outcome.map_eq_ok_iff.mp h.1
      simp
  | error other after => simp [Outcome.map_eq_error_iff.mp h.1]

theorem meetsMove_ofOutcome_bind {x : Except Fault α} {rest : α → Work Unit}
    {continued : α → Except Fault Progress}
    (hrest : ∀ a, MeetsMove s (continued a) ((rest a).run s)) :
    MeetsMove s (x >>= continued) ((ofOutcome x >>= rest).run s) := by
  cases x with
  | ok a => exact hrest a
  | error fault => exact ⟨rfl, rfl, rfl⟩

theorem meets_perform (n : Node) (s : Session) :
    MeetsMove s (s.progress.perform n) ((perform n).run s) := by
  unfold perform Progress.perform
  cases Fault.ofScript n.id (Script.assignments n.expression) with
  | error fault => exact ⟨rfl, rfl, rfl⟩
  | ok assigned => exact ⟨rfl, rfl, rfl⟩

theorem meets_ownEdges (g : Graph) (n : Node) (s : Session) :
    Meets s (g.ownEdges s.progress.route.containers n >>= g.exit s.progress)
      ((ownEdges g n).run s) := by
  unfold ownEdges Graph.ownEdges
  match n.edges with
  | [] => exact ⟨rfl, rfl, rfl⟩
  | [edge] =>
      dsimp only
      cases g.resolve n edge with
      | error fault => exact ⟨rfl, rfl, rfl⟩
      | ok target => exact ⟨rfl, rfl, rfl⟩
  | _ :: _ :: _ => exact ⟨rfl, rfl, rfl⟩

theorem meets_hop (g : Graph) (n : Node) (s : Session) :
    Meets s (g.hop s.progress.store s.progress.route.containers n >>= g.exit s.progress)
      ((hop g n).run s) := by
  unfold hop Graph.hop
  cases hkind : g.kindOf n with
  | instruction =>
      have hexit : (Except.ok (.rest (.displaying n) s.progress.route.containers) >>=
          g.exit s.progress) =
            (s.progress.perform n).map fun p => (Exit.rest (.displaying n), p) := if_pos hkind
      dsimp only
      rw [hexit]
      unfold perform Progress.perform
      cases Fault.ofScript n.id (Script.assignments n.expression) with
      | error fault => exact ⟨rfl, rfl, rfl⟩
      | ok assigned => exact ⟨rfl, rfl, rfl⟩
  | dialogue =>
      have hexit : g.exit s.progress (.rest (.displaying n) s.progress.route.containers) =
          .ok (.rest (.displaying n), s.progress) := if_neg (by simp [hkind])
      exact ⟨hexit, rfl, rfl⟩
  | hub => exact ⟨rfl, rfl, rfl⟩
  | jump =>
      dsimp only
      cases g.jumpTarget n with
      | error fault => exact ⟨rfl, rfl, rfl⟩
      | ok target => exact ⟨rfl, rfl, rfl⟩
  | condition =>
      simp only [EStateM.run_bind, EStateM.run_get]
      cases g.branchTarget s.progress.store n with
      | error fault => exact ⟨rfl, rfl, rfl⟩
      | ok target => exact ⟨rfl, rfl, rfl⟩
  | container =>
      simp only [EStateM.run_bind, EStateM.run_get]
      by_cases hopen : s.progress.route.isOpen n = true
      · have hinnermost : isInnermost n s.progress.route.containers = true := hopen
        rw [if_pos hinnermost, if_pos hopen]
        exact (meets_ownEdges g n _).of_sameFrame ⟨rfl, rfl⟩
      · have hinnermost : ¬isInnermost n s.progress.route.containers = true := hopen
        rw [if_neg hinnermost, if_neg hopen]
        cases g.firstChild? n with
        | none => exact meets_ownEdges g n s
        | some child => exact ⟨rfl, rfl, rfl⟩
  | unknown typeName => exact ⟨rfl, rfl, rfl⟩

theorem meets_enterWithin (g : Graph) (budget left : Nat) (n : Node) (s : Session) :
    MeetsMove s
      (g.settleWithin s.progress.store budget left s.progress.route.containers n >>=
        g.arrive s.progress)
      ((enterWithin g budget left n).run s) := by
  induction left generalizing n s with
  | zero =>
      rw [Graph.settleWithin_bind_arrive]
      apply Meets.bind_move (meets_hop g n s)
      intro exit t
      cases exit with
      | next next => exact ⟨rfl, rfl, rfl⟩
      | rest position => exact ⟨rfl, rfl, rfl⟩
  | succ left ih =>
      rw [Graph.settleWithin_bind_arrive]
      apply Meets.bind_move (meets_hop g n s)
      intro exit t
      cases exit with
      | next next => exact ih next t
      | rest position => exact ⟨rfl, rfl, rfl⟩

theorem meets_enter (story : Story) (n : Node) (s : Session) :
    MeetsMove s (story.enter s.progress n) ((enter story n).run s) :=
  meets_enterWithin story.graph _ _ n s

theorem meets_reenter (story : Story) (n : Node) (s : Session) :
    MeetsMove s (story.reenter s.progress n) ((reenter story n).run s) :=
  (meets_enter story n _).of_sameFrame ⟨rfl, rfl⟩

theorem meets_advance (story : Story) (n : Node) (s : Session) :
    MeetsMove s (story.advanceFrom s.progress n) ((advance story n).run s) := by
  unfold advance Story.advanceFrom
  dsimp only
  split
  · exact ⟨rfl, rfl, rfl⟩
  · match n.edges with
    | [] => exact ⟨rfl, rfl, rfl⟩
    | [edge] =>
        apply meetsMove_ofOutcome_bind
        intro next
        exact (meets_enter story next _).of_sameFrame ⟨rfl, rfl⟩
    | _ :: _ :: _ => exact ⟨rfl, rfl, rfl⟩

theorem meets_choose (story : Story) (offering target : Node) (text : String) (s : Session) :
    MeetsMove s (story.choose s.progress offering target text)
      ((choose story offering target text).run s) := by
  unfold choose Story.choose
  dsimp only
  have hthrough : MeetsMove s (story.enter (s.progress.leave offering text true none) target)
      ((do mark offering text true none; pass offering; enter story target).run s) :=
    (meets_enter story target _).of_sameFrame ⟨rfl, rfl⟩
  match (story.graph.kindOf target).isDisplayed, target.edges with
  | true, [edge] =>
      apply meetsMove_ofOutcome_bind
      intro next
      rw [run_leave]
      split
      · refine (MeetsMove.bind (meets_perform target _) ?_).of_sameFrame ⟨rfl, rfl⟩
        intro t
        exact (meets_enter story next _).of_sameFrame ⟨rfl, rfl⟩
      · exact (meets_enter story next _).of_sameFrame ⟨rfl, rfl⟩
  | false, _ => exact hthrough
  | true, [] => exact hthrough
  | true, _ :: _ :: _ => exact hthrough

theorem meets_rewind (story : Story) (s : Session) :
    MeetsMove s (.ok (story.graph.rewind s.progress)) ((rewind story).run s) := by
  unfold rewind Graph.rewind
  simp only [EStateM.run_bind, EStateM.run_get]
  cases s.progress.route.checkpoints with
  | nil => exact ⟨rfl, rfl, rfl⟩
  | cons checkpoint checkpoints => exact ⟨rfl, rfl, rfl⟩

/-- What was put aside is enough to undo work that touched nothing else. -/
theorem restore_save (h : s.SameFrame t) :
    EStateM.Backtrackable.restore t (EStateM.Backtrackable.save s) = s := by
  obtain ⟨⟨⟨current, initial⟩, route⟩, display⟩ := s
  obtain ⟨⟨⟨current', initial'⟩, route'⟩, display'⟩ := t
  obtain ⟨rfl, rfl⟩ := h
  rfl

/-- Whether work in place has come to the expected session and answered with what is shown
there, or ended in the expected fault with the session as it was. -/
inductive Answers (s : Session) :
    Except Fault Session → EStateM.Result Fault Session Display → Prop where
  | ok (after : Session) : Answers s (.ok after) (.ok after.display after)
  | error (fault : Fault) : Answers s (.error fault) (.error fault s)

section TryCatch

variable {body : Work Display}

theorem run_tryCatch_of_ok {display : Display} (h : body.run s = .ok display t) :
    (tryCatch body throw).run s = .ok display t := by
  change EStateM.tryCatch body throw s = _
  unfold EStateM.run at h
  unfold EStateM.tryCatch
  simp only [h]

theorem run_tryCatch_of_error (fault : Fault) (h : body.run s = .error fault t) :
    (tryCatch body throw).run s =
      .error fault (EStateM.Backtrackable.restore t (EStateM.Backtrackable.save s)) := by
  change EStateM.tryCatch body throw s = _
  unfold EStateM.run at h
  unfold EStateM.tryCatch
  simp only [h]
  rfl

end TryCatch

/-- A move in place shows what it is to show, or leaves the session as it was. -/
theorem answers_transition {story : Story} {move : Work Unit}
    (h : MeetsMove s expected (move.run s)) :
    Answers s (expected >>= story.shown) ((transition story move).run s) := by
  cases hmove : move.run s with
  | error fault t =>
      rw [hmove] at h
      obtain ⟨hfault, hframe⟩ := h
      rw [Outcome.map_eq_error_iff.mp hfault, transition,
        run_tryCatch_of_error fault (by rw [EStateM.run_bind, hmove]), restore_save hframe]
      exact .error fault
  | ok a t =>
      rw [hmove] at h
      obtain ⟨hprogress, hframe⟩ := h
      obtain ⟨p, rfl, heq⟩ := Outcome.map_eq_ok_iff.mp hprogress
      cases heq
      change Answers s (story.shown t.progress) _
      cases hrender : story.graph.render t.progress with
      | error fault =>
          rw [Story.shown, hrender, transition, run_tryCatch_of_error (t := t) fault
            (by simp only [EStateM.run_bind, hmove, EStateM.run_get, hrender]; rfl),
            restore_save hframe]
          exact .error fault
      | ok display =>
          rw [Story.shown, hrender, transition, run_tryCatch_of_ok (t := { t with display })
            (by simp only [EStateM.run_bind, hmove, EStateM.run_get, hrender]; rfl)]
          exact .ok { t with display }

theorem answers_respond (story : Story) (t : Trigger) (s : Session) :
    Answers s (story.step s t) ((respond story t).run s) := by
  cases t with
  | advance =>
      simp only [respond, Story.step, EStateM.run_bind, EStateM.run_get]
      cases s.progress.route.position with
      | displaying n => exact answers_transition (meets_advance story n s)
      | offering n => exact .ok s
      | ended => exact .ok s
  | select index =>
      have hsame {display : Display} (h : s.display = display) :
          Answers s (.ok s) ((pure display : Work Display).run s) := by
        rw [← h]
        exact .ok s
      simp only [respond, Story.step, EStateM.run_bind, EStateM.run_get]
      cases hdisplay : s.display with
      | content c => exact hsame hdisplay
      | ended => exact hsame hdisplay
      | choices offer =>
          dsimp only
          cases offer.choices[index]? with
          | none => exact hsame hdisplay
          | some choice =>
              dsimp only
              split
              · exact answers_transition (meets_choose story _ _ _ s)
              · exact hsame hdisplay
  | back =>
      simp only [respond, Story.step, EStateM.run_bind, EStateM.run_get]
      cases s.progress.route.checkpoints with
      | nil => exact .ok s
      | cons checkpoint checkpoints => exact answers_transition (meets_rewind story s)
  | jump id =>
      simp only [respond, Story.step]
      cases story.graph.node? id with
      | none => exact .ok s
      | some n => exact answers_transition (meets_reenter story n s)
  | restart => exact answers_transition (meets_reenter story story.start s)

end Work

namespace Story

variable {story : Story}

theorem run_transact (t : Trigger) (s : Session) : (story.transact t).run s = story.fire s t := by
  have h := Work.answers_respond story t s
  change transact story t s = _
  unfold transact fire
  generalize story.step s t = expected, (Work.respond story t).run s = result at h
  cases h with
  | ok after => rfl
  | error fault => rfl

theorem run_operate (triggers : List Trigger) (s : Session) :
    (story.operate triggers).run s = story.run s triggers := by
  induction triggers generalizing s with
  | nil => rfl
  | cons t triggers ih =>
      have htail : (triggers.mapM story.transact).run (story.fire s t).2 =
          story.run (story.fire s t).2 triggers := ih (story.fire s t).2
      simp only [operate, List.mapM_cons, StateT.run_bind, run_transact]
      change ((story.fire s t).1 :: ((triggers.mapM story.transact).run (story.fire s t).2).1,
        ((triggers.mapM story.transact).run (story.fire s t).2).2) = _
      rw [htail]
      rfl

end Story

end Narrative
