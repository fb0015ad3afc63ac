import Narrative.Proofs.Session.Idle
import Narrative.Proofs.Session.PassingBy

/-!
What can be chosen. A choice is looked up by its place in the list that is shown, is announced by
the index that it keeps, and was found enabled when the list was made. In every session of every
run the three agree with each other and with the present variables: what is acted on is what is
announced, and the choice taken is the edge at that place, to a node whose guard lets the reader
in.
-/

namespace Narrative

/-- Where every choice keeps its place as its index, the indices of the enabled choices are the
places at which there is one. -/
theorem Offer.mem_enabledIndices {offer : Offer} {index : Nat}
    (h : ∀ (place : Nat) (choice : Choice), offer.choices[place]? = some choice →
      choice.index = place) :
    index ∈ offer.enabledIndices ↔
      ∃ choice, offer.choices[index]? = some choice ∧ choice.enabled = true := by
  simp only [enabledIndices, List.mem_map, List.mem_filter]
  constructor
  · rintro ⟨choice, ⟨hmem, henabled⟩, rfl⟩
    obtain ⟨place, hplace⟩ := List.mem_iff_getElem?.mp hmem
    rw [h place choice hplace]
    exact ⟨choice, hplace, henabled⟩
  · rintro ⟨choice, hchoice, henabled⟩
    exact ⟨choice, ⟨List.mem_of_getElem? hchoice, henabled⟩, h index choice hchoice⟩

namespace Story

variable {document : Document} {settings : Settings} {story : Story} {s : Session}
  {p q : Progress} {target : Node} {offer : Offer} {choice : Choice} {index : Nat}

/-- Taking a choice makes a checkpoint for the offering node. It names the chosen node if that was
passed by, which is then the last one on the history; otherwise the reader comes to it. -/
theorem checkpoints_of_choose {offering : Node} {text : String}
    (htarget : story.graph.Holds target) (h : story.choose p offering target text = .ok q) :
    ∃ skipped, q.route.checkpoints =
        p.checkpointAt offering text true skipped :: p.route.checkpoints ∧
      ((skipped = some target ∧ q.route.history.getLast? = some target) ∨
        (skipped = none ∧ story.enter (p.leave offering text true none) target = .ok q)) := by
  rcases choose_cases h with ⟨edge, next, performed, -, -, hnext, hperformed, henter⟩ | henter
  · obtain ⟨-, -, hroute⟩ := visit_of_perform hperformed
    obtain ⟨hhistory, hcheckpoints, -, -, -⟩ :=
      enter_keeps (Graph.holds_of_resolve hnext) henter
    refine ⟨some target, ?_, .inl ⟨rfl, ?_⟩⟩
    · rw [hcheckpoints, hroute]
      exact p.checkpoints_leave offering text true (some target)
    · rw [hhistory]
      exact List.getLast?_concat
  · obtain ⟨-, hcheckpoints, -, -, -⟩ := enter_keeps htarget henter
    exact ⟨none, hcheckpoints, .inr ⟨rfl, henter⟩⟩

theorem step_select (hdisplay : s.display = .choices offer)
    (hchoice : offer.choices[index]? = some choice) (henabled : choice.enabled = true) :
    story.step s (.select index) =
      story.choose s.progress offer.node choice.target choice.text >>= story.shown := by
  simp only [step, hdisplay, hchoice, henabled, if_true]

/-- A selection is ignored, or there is an enabled choice at its place. -/
theorem ignored_select_or (story : Story) (s : Session) (index : Nat) :
    story.Ignored s (.select index) ∨ ∃ offer choice, s.display = .choices offer ∧
      offer.choices[index]? = some choice ∧ choice.enabled = true := by
  cases hdisplay : s.display with
  | content c => exact .inl (.noChoices (by simp [hdisplay]))
  | ended => exact .inl (.noChoices (by simp [hdisplay]))
  | choices offer =>
      cases hchoice : offer.choices[index]? with
      | none => exact .inl (.outOfRange hdisplay (by simpa using hchoice))
      | some choice =>
          cases henabled : choice.enabled with
          | false => exact .inl (.disabled hdisplay hchoice henabled)
          | true => exact .inr ⟨offer, choice, rfl, hchoice, henabled⟩

/-- Whether a trigger is acted on: it ends in a fault, or it adds just one checkpoint. -/
def ActsOn (story : Story) (s : Session) (t : Trigger) : Prop :=
  (∃ fault, ((story.transact t).run s).1 = .error fault) ∨
    ∃ c, ((story.transact t).run s).2.progress.route.checkpoints =
      c :: s.progress.route.checkpoints

theorem run_transact_of_ignored {t : Trigger} (h : story.Ignored s t) :
    (story.transact t).run s = (.ok s.display, s) := by
  rw [run_transact, fire_of_ok (step_of_ignored h)]

theorem not_actsOn_of_ignored {t : Trigger} (h : story.Ignored s t) : ¬story.ActsOn s t := by
  unfold ActsOn
  rw [run_transact_of_ignored h]
  rintro (⟨fault, hfault⟩ | ⟨c, hadded⟩)
  · cases hfault
  · exact List.cons_ne_self c _ hadded.symm

theorem step_of_run_transact {t : Trigger} {display : Display} {after : Session}
    (h : (story.transact t).run s = (.ok display, after)) : story.step s t = .ok after := by
  rw [run_transact] at h
  cases hstep : story.step s t with
  | error fault =>
      rw [fire_of_error hstep] at h
      cases (Prod.mk.inj h).1
  | ok other =>
      rw [fire_of_ok hstep] at h
      rw [(Prod.mk.inj h).2]

/-- Whether the newest checkpoint of a session records that the reader took a choice of an offering
node in an earlier one. The chosen node was passed by, and is the last one moved past, or the
reader came to it. -/
def Records (story : Story) (s : Session) (offering : Node) (choice : Choice) (after : Session) :
    Prop :=
  ∃ c, after.progress.route.checkpoints = c :: s.progress.route.checkpoints ∧
    c.node = offering ∧ c.isChoice = true ∧ c.text = choice.text ∧
    ((c.skipped = some choice.target ∧
        after.progress.route.history.getLast? = some choice.target) ∨
      (c.skipped = none ∧
        story.enter (s.progress.leave offering choice.text true none) choice.target =
          .ok after.progress))

theorem Sound.records_of_select (h : story.Sound s) (hdisplay : s.display = .choices offer)
    (hchoice : offer.choices[index]? = some choice) (henabled : choice.enabled = true)
    {display : Display} {after : Session}
    (hok : (story.transact (.select index)).run s = (.ok display, after)) :
    story.Records s offer.node choice after := by
  obtain ⟨-, hoffered⟩ := h.offered hdisplay
  obtain ⟨edge, -, htarget, -⟩ := hoffered index choice hchoice
  have hstep := step_of_run_transact hok
  rw [step_select hdisplay hchoice henabled] at hstep
  obtain ⟨q, hchoose, hshown⟩ := Outcome.bind_eq_ok_iff.mp hstep
  unfold Records
  rw [(shown_eq_ok hshown).1]
  obtain ⟨skipped, hcheckpoints, hcases⟩ :=
    checkpoints_of_choose (Graph.holds_of_resolve htarget) hchoose
  exact ⟨_, hcheckpoints, rfl, rfl, rfl, hcases⟩

theorem Sound.mem_enabledIndices (h : story.Sound s) (hdisplay : s.display = .choices offer) :
    index ∈ offer.enabledIndices ↔
      ∃ choice, offer.choices[index]? = some choice ∧ choice.enabled = true := by
  apply Offer.mem_enabledIndices
  intro place choice hchoice
  obtain ⟨edge, -, -, hindex, -⟩ := (h.offered hdisplay).2 place choice hchoice
  exact hindex

theorem Sound.actsOn_select_iff (h : story.Sound s) (index : Nat) :
    story.ActsOn s (.select index) ↔
      ∃ offer, s.display = .choices offer ∧ index ∈ offer.enabledIndices := by
  constructor
  · intro hacts
    rcases ignored_select_or story s index with
      hignored | ⟨offer, choice, hdisplay, hchoice, henabled⟩
    · exact absurd hacts (not_actsOn_of_ignored hignored)
    · exact ⟨offer, hdisplay, (h.mem_enabledIndices hdisplay).mpr ⟨choice, hchoice, henabled⟩⟩
  · rintro ⟨offer, hdisplay, hmem⟩
    obtain ⟨choice, hchoice, henabled⟩ := (h.mem_enabledIndices hdisplay).mp hmem
    cases hrun : (story.transact (.select index)).run s with
    | mk answer after =>
      cases answer with
      | error fault => exact .inl ⟨fault, by rw [hrun]⟩
      | ok display =>
          obtain ⟨c, hadded, -⟩ := h.records_of_select hdisplay hchoice henabled hrun
          exact .inr ⟨c, by rw [hrun]; exact hadded⟩

/-- In every session of every run, selecting an index is acted on just if choices are shown and
the index is announced as enabled; otherwise the answer is what is shown already, and the session
is as it was. The choice that an announced index takes leads over the edge of the offering node at
that place, to a node whose guard is empty or holds with the present variables. Where it succeeds,
the newest checkpoint records just this choice. -/
theorem select_actsOn_iff_enabled (h : Reachable document settings story s) (index : Nat) :
    (story.ActsOn s (.select index) ↔
        ∃ offer, s.display = .choices offer ∧ index ∈ offer.enabledIndices) ∧
      (¬story.ActsOn s (.select index) →
        (story.transact (.select index)).run s = (.ok s.display, s)) ∧
      ∀ offer, s.display = .choices offer → index ∈ offer.enabledIndices →
        s.progress.route.position = .offering offer.node ∧
          ∃ edge choice, offer.node.edges[index]? = some edge ∧
            offer.choices[index]? = some choice ∧
            story.graph.resolve offer.node edge = .ok choice.target ∧
            (choice.target.guardText = "" ∨
              Script.guardHolds choice.target.guardText s.progress.store = .ok true) ∧
            ∀ display after, (story.transact (.select index)).run s = (.ok display, after) →
              story.Records s offer.node choice after := by
  obtain ⟨-, past, hpast⟩ := h.recalls
  have hsound := hpast.sound
  refine ⟨hsound.actsOn_select_iff index, ?_, ?_⟩
  · intro hnot
    rcases ignored_select_or story s index with
      hignored | ⟨offer, choice, hdisplay, hchoice, henabled⟩
    · exact run_transact_of_ignored hignored
    · have hmem := (hsound.mem_enabledIndices hdisplay).mpr ⟨choice, hchoice, henabled⟩
      exact absurd ((hsound.actsOn_select_iff index).mpr ⟨offer, hdisplay, hmem⟩) hnot
  · intro offer hdisplay hmem
    obtain ⟨choice, hchoice, henabled⟩ := (hsound.mem_enabledIndices hdisplay).mp hmem
    obtain ⟨hposition, hoffered⟩ := hsound.offered hdisplay
    obtain ⟨edge, hedge, htarget, -, hguardText, hguard⟩ := hoffered index choice hchoice
    rw [henabled, hguardText] at hguard
    exact ⟨hposition, edge, choice, hedge, hchoice, htarget, .inr hguard,
      fun display after => hsound.records_of_select hdisplay hchoice henabled⟩

/-- At the hub of the crossroads both choices are announced. The first one leads to the key, which
is passed by, and there is no third one. -/
theorem select_actsOn_iff_enabled_at_hub :
    ∃ story first offer choice, opened crossroads {} = .ok (story, first) ∧
      (story.run first [.advance]).2.display = .choices offer ∧
      offer.enabledIndices = [0, 1] ∧ offer.choices[0]? = some choice ∧
      choice.target.id = "key" ∧ choice.target.guardText = "" ∧
      story.ActsOn (story.run first [.advance]).2 (.select 0) ∧
      ¬story.ActsOn (story.run first [.advance]).2 (.select 2) ∧
      story.Records (story.run first [.advance]).2 offer.node choice
        (story.run first [.advance, .select 0]).2 := by
  obtain ⟨story, first, offer, choice, display, hopened, hdisplay, hindices, hchoice, hid, hguard,
      hselect⟩ :
    ∃ story first offer choice display, opened crossroads {} = .ok (story, first) ∧
      (story.run first [.advance]).2.display = .choices offer ∧
      offer.enabledIndices = [0, 1] ∧ offer.choices[0]? = some choice ∧
      choice.target.id = "key" ∧ choice.target.guardText = "" ∧
      story.fire (story.run first [.advance]).2 (.select 0) =
        (.ok display, (story.run first [.advance, .select 0]).2) :=
    ⟨_, _, _, _, _, rfl, rfl, rfl, rfl, rfl, rfl, rfl⟩
  have hreachable : Reachable crossroads {} story (story.run first [.advance]).2 :=
    ⟨first, [.advance], hopened, rfl⟩
  obtain ⟨hacts, -, htaken⟩ := select_actsOn_iff_enabled hreachable 0
  obtain ⟨hbeyond, -, -⟩ := select_actsOn_iff_enabled hreachable 2
  obtain ⟨-, edge, other, -, hother, -, -, hrecords⟩ := htaken offer hdisplay (by simp [hindices])
  cases hchoice.symm.trans hother
  refine ⟨story, first, offer, choice, hopened, hdisplay, hindices, hchoice, hid, hguard,
    hacts.mpr ⟨offer, hdisplay, by simp [hindices]⟩, ?_,
    hrecords display _ ((run_transact _ _).trans hselect)⟩
  rw [hbeyond]
  rintro ⟨other, hsame, hmem⟩
  cases hdisplay.symm.trans hsame
  simp [hindices] at hmem

end Story

end Narrative
