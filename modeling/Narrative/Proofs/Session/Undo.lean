import Narrative.Proofs.Graph.Choices
import Narrative.Proofs.Session.Moves

/-!
Going back. A checkpoint keeps only a part of the session that it was made in; the
rest is worked out again when the reader returns to it. The sessions that a reader
could go back to are kept here as a whole, beside the run, and going back is shown to
bring back exactly the newest of them.
-/

namespace Narrative

namespace Graph

/-- The position at which a reader stands who goes back to a node. -/
def returnPosition (g : Graph) (n : Node) : Position :=
  if g.offersOnReturn n then .offering n else .displaying n

variable {g : Graph} {p q : Progress} {n : Node}

theorem offersOnReturn_of_offering (h : g.Stands (.offering n)) : g.offersOnReturn n = true := by
  rcases h.2 with hkind | ⟨hmany, -⟩
  · simp [offersOnReturn, hkind]
  · simp [offersOnReturn, hmany]

theorem offersOnReturn_of_displaying (h : g.Stands (.displaying n)) (hfew : n.edgeCount ≤ 1) :
    g.offersOnReturn n = false := by
  cases hkind : g.kindOf n <;>
    simp_all [offersOnReturn, Stands, Kind.isDisplayed]

theorem returnPosition_of_offering (h : g.Stands (.offering n)) :
    g.returnPosition n = .offering n := by
  rw [returnPosition, if_pos (offersOnReturn_of_offering h)]

theorem returnPosition_of_displaying (h : g.Stands (.displaying n)) (hfew : n.edgeCount ≤ 1) :
    g.returnPosition n = .displaying n := by
  rw [returnPosition, offersOnReturn_of_displaying h hfew]
  rfl

/-- Going back undoes a departure completely. -/
theorem rewind_of_departure {text : String} {isChoice : Bool} {skipped : Option Node}
    (h : g.Departure p n text isChoice skipped q)
    (hposition : p.route.position = g.returnPosition n) :
    g.rewind q = p := by
  obtain ⟨⟨current, initial⟩, ⟨position, history, containers, checkpoints⟩⟩ := p
  have hpast := h.checkpoints
  have hhistory := h.history
  have hinitial := h.initial
  simp only [Progress.leave] at hpast hhistory hinitial hposition
  subst hposition
  simp [rewind, hpast, hhistory, Store.restore, hinitial, returnPosition]

theorem rewind_standAt (hpast : p.route.checkpoints ≠ []) (position : Position) :
    g.rewind { p with route := p.route.standAt position } = g.rewind p := by
  cases hcheckpoints : p.route.checkpoints with
  | nil => exact absurd hcheckpoints hpast
  | cons checkpoint checkpoints => simp [rewind, Route.standAt, hcheckpoints]

theorem render_eq_choices {offer : Offer} (h : g.render p = .ok (.choices offer)) :
    p.route.position = .offering offer.node ∧ g.choices p.store offer.node = .ok offer.choices := by
  unfold render at h
  split at h
  · cases h
  · cases h
  · rename_i n hposition
    obtain ⟨choices, hchoices, heq⟩ := Outcome.map_eq_ok_iff.mp h
    cases heq
    exact ⟨hposition, hchoices⟩

end Graph

namespace Story

variable {story : Story} {s after : Session} {p q : Progress}

/-- A session in which the reader stands at a proper place and is shown just that. -/
structure Sound (story : Story) (s : Session) : Prop where
  stands : story.graph.Stands s.progress.route.position
  display : story.graph.render s.progress = .ok s.display

/-- The choices that are shown are those of the node that offers them. -/
theorem Sound.choices_of_display (h : story.Sound s) {offer : Offer}
    (hdisplay : s.display = .choices offer) :
    s.progress.route.position = .offering offer.node ∧
      story.graph.choices s.progress.store offer.node = .ok offer.choices := by
  have hrender := h.display
  rw [hdisplay] at hrender
  exact Graph.render_eq_choices hrender

/-- How the progress of a reader changes who goes on or takes a choice. -/
inductive Forward (story : Story) (p : Progress) : Progress → Prop where
  /-- The reader departs from the node of the position. -/
  | departs {n : Node} {text : String} {isChoice : Bool} {skipped : Option Node} {q : Progress}
      (hposition : p.route.position = story.graph.returnPosition n)
      (hdeparture : story.graph.Departure p n text isChoice skipped q) : Forward story p q
  /-- The edges of the shown node are put on offer. -/
  | offers {n : Node} (hposition : p.route.position = .displaying n) (hmany : 1 < n.edgeCount)
      (hkind : story.graph.kindOf n = .dialogue) :
      Forward story p { p with route := p.route.standAt (.offering n) }

theorem Forward.stands (h : Forward story p q) (hp : story.graph.Stands p.route.position) :
    story.graph.Stands q.route.position := by
  cases h with
  | departs hposition hdeparture => exact hdeparture.stands
  | offers hposition hmany hkind =>
      rw [hposition] at hp
      exact ⟨hp.1, .inr ⟨hmany, .inl hkind⟩⟩

theorem Forward.initial_eq (h : Forward story p q) : q.store.initial = p.store.initial := by
  cases h with
  | departs hposition hdeparture => exact hdeparture.initial
  | offers hposition hmany hkind => rfl

/-- Going on and taking a choice are the forward moves. -/
theorem forward_of_attempt (hs : story.Sound s) {t : Trigger} (h : Attempt story s t (.ok q))
    (ht : t = .advance ∨ ∃ index, t = .select index) : Forward story s.progress q := by
  have hstands := hs.stands
  -- The outcome has to be a variable before the attempt can be taken apart.
  generalize hresult : (Except.ok q : Except Fault Progress) = result at h
  cases h with
  | advance hposition =>
      rw [hposition] at hstands
      rcases advanceFrom_eq_ok hstands.2 hresult.symm with ⟨hfew, hdeparture⟩ | ⟨hmany, hkind, rfl⟩
      · have hreturn := Graph.returnPosition_of_displaying hstands hfew
        exact .departs (hposition.trans hreturn.symm) hdeparture
      · exact .offers hposition hmany hkind
  | @select index offer choice hdisplay hchoice henabled =>
      obtain ⟨hposition, hchoices⟩ := hs.choices_of_display hdisplay
      rw [hposition] at hstands
      have htarget : story.graph.Holds choice.target :=
        Graph.holds_of_mem_choices hchoices (List.mem_of_getElem? hchoice)
      obtain ⟨skipped, -, hdeparture⟩ := choose_eq_ok htarget hresult.symm
      have hreturn := Graph.returnPosition_of_offering hstands
      exact .departs (hposition.trans hreturn.symm) hdeparture
  | back hpast => simp at ht
  | jump hnode => simp at ht
  | restart => simp at ht

theorem sound_of_shown (hq : story.graph.Stands q.route.position) (h : story.shown q = .ok after) :
    story.Sound after := by
  obtain ⟨rfl, hdisplay⟩ := shown_eq_ok h
  exact ⟨hq, hdisplay⟩

/-- The sessions that going back would bring back one after another, newest first: the
chain ends where there is no checkpoint left. -/
inductive Recalls (story : Story) : Session → List Session → Prop where
  | start {s : Session} (hs : story.Sound s) (hpast : s.progress.route.checkpoints = []) :
      Recalls story s []
  | past {s last : Session} {past : List Session} (hs : story.Sound s)
      (hpast : s.progress.route.checkpoints ≠ [])
      (hback : story.graph.rewind s.progress = last.progress) (hlast : Recalls story last past) :
      Recalls story s (last :: past)

theorem Recalls.sound {past : List Session} (h : Recalls story s past) : story.Sound s := by
  cases h with
  | start hs => exact hs
  | past hs => exact hs

theorem Recalls.length_eq {past : List Session} (h : Recalls story s past) :
    past.length = s.progress.route.checkpoints.length := by
  induction h with
  | start _ hpast =>
      rw [hpast]
      rfl
  | @past s last past _ hpast hback _ ih =>
      rw [List.length_cons, ih, ← hback]
      cases hcheckpoints : s.progress.route.checkpoints with
      | nil => exact absurd hcheckpoints hpast
      | cons checkpoint checkpoints => simp [Graph.rewind, hcheckpoints]

theorem Recalls.step_back {last : Session} {past : List Session}
    (h : Recalls story s (last :: past)) : story.step s .back = .ok last := by
  cases h with
  | past _ hpast hback hlast =>
      have hshown : story.shown last.progress = .ok last := by
        rw [shown, hlast.sound.display]
        rfl
      cases hcheckpoints : s.progress.route.checkpoints with
      | nil => exact absurd hcheckpoints hpast
      | cons checkpoint checkpoints => simpa only [step, hcheckpoints, hback] using hshown

theorem Recalls.stands_rewind {past : List Session} (h : Recalls story s past) :
    story.graph.Stands (story.graph.rewind s.progress).route.position := by
  cases h with
  | start hs hpast =>
      have hsame : story.graph.rewind s.progress = s.progress := by
        simp only [Graph.rewind, hpast]
      rw [hsame]
      exact hs.stands
  | past _ _ hback hlast =>
      rw [hback]
      exact hlast.sound.stands

theorem Recalls.stands_of_attempt {past : List Session} {t : Trigger} (h : Recalls story s past)
    (hstart : story.graph.Holds story.start) (hattempt : Attempt story s t (.ok q)) :
    story.graph.Stands q.route.position := by
  have hok := hattempt
  generalize hresult : (Except.ok q : Except Fault Progress) = result at hattempt
  cases hattempt with
  | advance => exact (forward_of_attempt h.sound hok (.inl rfl)).stands h.sound.stands
  | select => exact (forward_of_attempt h.sound hok (.inr ⟨_, rfl⟩)).stands h.sound.stands
  | back =>
      cases hresult
      exact h.stands_rewind
  | @jump id n hnode =>
      obtain ⟨-, -, -, -, hstands⟩ := reenter_eq_ok ⟨id, hnode⟩ hresult.symm
      exact hstands
  | restart =>
      obtain ⟨-, -, -, -, hstands⟩ := reenter_eq_ok hstart hresult.symm
      exact hstands

/-- After a forward move the chain is the one before, and the session that was left has
been put on it if it was departed from. -/
theorem Recalls.forward {past : List Session} (h : Recalls story s past)
    (hq : Forward story s.progress q) (hshown : story.shown q = .ok after) :
    (s.progress.route.checkpoints.length < after.progress.route.checkpoints.length ∧
        Recalls story after (s :: past)) ∨
      (after.progress.route.checkpoints = s.progress.route.checkpoints ∧
        Recalls story after past) := by
  have hafter : story.Sound after := sound_of_shown (hq.stands h.sound.stands) hshown
  obtain ⟨hprogress, -⟩ := shown_eq_ok hshown
  cases hq with
  | departs hposition hdeparture =>
      rw [← hprogress] at hdeparture
      have hlonger : s.progress.route.checkpoints.length <
          after.progress.route.checkpoints.length := by
        rw [hdeparture.checkpoints]
        simp [Progress.leave]
      have hpast : after.progress.route.checkpoints ≠ [] := by
        intro hnil
        rw [hnil] at hlonger
        exact absurd hlonger (Nat.not_lt_zero _)
      exact .inl ⟨hlonger, .past hafter hpast (Graph.rewind_of_departure hdeparture hposition) h⟩
  | @offers n hposition hmany hkind =>
      have hsame : after.progress.route.checkpoints = s.progress.route.checkpoints := by
        rw [hprogress]
        rfl
      refine .inr ⟨hsame, ?_⟩
      cases h with
      | start _ hpast => exact .start hafter (hsame.trans hpast)
      | past _ hpast hback hlast =>
          refine .past hafter (hsame ▸ hpast) ?_ hlast
          rw [hprogress, Graph.rewind_standAt hpast, hback]

theorem recalls_of_reenter {n : Node} (hn : story.graph.Holds n)
    (hq : story.reenter p n = .ok q) (hshown : story.shown q = .ok after) :
    Recalls story after [] := by
  obtain ⟨-, hcheckpoints, -, -, hstands⟩ := reenter_eq_ok hn hq
  obtain ⟨hprogress, -⟩ := shown_eq_ok hshown
  exact .start (sound_of_shown hstands hshown) (by rw [hprogress, hcheckpoints])

/-- What a trigger without a fault has done, seen from a session with its chain: nothing,
a forward move, a return to the newest session of the chain, or a fresh entry. -/
theorem Recalls.step_cases {past : List Session} {t : Trigger} (h : Recalls story s past)
    (hstart : story.graph.Holds story.start) (hstep : story.step s t = .ok after) :
    after = s ∨
      (∃ q, Forward story s.progress q ∧ story.shown q = .ok after) ∨
      (∃ older, past = after :: older ∧ Recalls story after older) ∨
      (∃ n q, story.graph.Holds n ∧ story.reenter s.progress n = .ok q ∧
        story.shown q = .ok after) := by
  rcases step_eq_ok hstep with rfl | ⟨q, hattempt, hshown⟩
  · exact .inl rfl
  · right
    have hok := hattempt
    generalize hresult : (Except.ok q : Except Fault Progress) = result at hattempt
    cases hattempt with
    | advance => exact .inl ⟨q, forward_of_attempt h.sound hok (.inl rfl), hshown⟩
    | select => exact .inl ⟨q, forward_of_attempt h.sound hok (.inr ⟨_, rfl⟩), hshown⟩
    | back hpast =>
        cases h with
        | start _ hnone => exact absurd hnone hpast
        | past hs hpast hback hlast =>
            have hlatest := (Recalls.past hs hpast hback hlast).step_back
            cases hstep.symm.trans hlatest
            exact .inr (.inl ⟨_, rfl, hlast⟩)
    | jump hnode => exact .inr (.inr ⟨_, q, ⟨_, hnode⟩, hresult.symm, hshown⟩)
    | restart => exact .inr (.inr ⟨_, q, hstart, hresult.symm, hshown⟩)

/-- The chain of sessions to go back to, as a trigger changes it: the session before a
trigger that lengthens the list of checkpoints is put on it, going back takes the newest
one off, and a fresh entry at a node empties it. -/
def pastAfter (story : Story) (s : Session) (past : List Session) (t : Trigger) : List Session :=
  match t, story.step s t with
  | .back, _ => if s.progress.route.checkpoints.isEmpty then past else past.tail
  | _, .error _ => past
  | .jump id, .ok _ => if (story.graph.node? id).isSome then [] else past
  | .restart, .ok _ => []
  | _, .ok after =>
    if s.progress.route.checkpoints.length < after.progress.route.checkpoints.length then s :: past
    else past

def pastOf (story : Story) (s : Session) (past : List Session) : List Trigger → List Session
  | [] => past
  | t :: triggers => story.pastOf (story.fire s t).2 (story.pastAfter s past t) triggers

theorem Recalls.of_lengthening {past : List Session} (h : Recalls story s past)
    (hcases : after = s ∨ ∃ q, Forward story s.progress q ∧ story.shown q = .ok after) :
    Recalls story after
      (if s.progress.route.checkpoints.length < after.progress.route.checkpoints.length
        then s :: past else past) := by
  rcases hcases with rfl | ⟨q, hq, hshown⟩
  · rw [if_neg (Nat.lt_irrefl _)]
    exact h
  · rcases h.forward hq hshown with ⟨hlonger, hafter⟩ | ⟨hsame, hafter⟩
    · rw [if_pos hlonger]
      exact hafter
    · rw [hsame, if_neg (Nat.lt_irrefl _)]
      exact hafter

theorem Recalls.fire_forward {past : List Session} {t : Trigger} (h : Recalls story s past)
    (ht : t = .advance ∨ ∃ index, t = .select index) :
    Recalls story (story.fire s t).2 (story.pastAfter s past t) := by
  cases hstep : story.step s t with
  | error fault =>
      rw [fire_of_error hstep]
      rcases ht with rfl | ⟨index, rfl⟩
      · simpa only [pastAfter, hstep] using h
      · simpa only [pastAfter, hstep] using h
  | ok after =>
      have hcases : after = s ∨ ∃ q, Forward story s.progress q ∧ story.shown q = .ok after := by
        rcases step_eq_ok hstep with rfl | ⟨q, hattempt, hshown⟩
        · exact .inl rfl
        · exact .inr ⟨q, forward_of_attempt h.sound hattempt ht, hshown⟩
      have hafter := h.of_lengthening hcases
      rw [fire_of_ok hstep]
      rcases ht with rfl | ⟨index, rfl⟩
      · simpa only [pastAfter, hstep] using hafter
      · simpa only [pastAfter, hstep] using hafter

theorem Recalls.fire {past : List Session} (h : Recalls story s past)
    (hstart : story.graph.Holds story.start) (t : Trigger) :
    Recalls story (story.fire s t).2 (story.pastAfter s past t) := by
  have hfresh {t : Trigger} {n : Node} (hn : story.graph.Holds n)
      (hstep : story.step s t = story.reenter s.progress n >>= story.shown)
      (hok : ∀ after, story.step s t = .ok after → story.pastAfter s past t = [])
      (herror : ∀ fault, story.step s t = .error fault → story.pastAfter s past t = past) :
      Recalls story (story.fire s t).2 (story.pastAfter s past t) := by
    cases hresult : story.step s t with
    | error fault =>
        rw [fire_of_error hresult, herror fault hresult]
        exact h
    | ok after =>
        rw [fire_of_ok hresult, hok after hresult]
        obtain ⟨q, hq, hshown⟩ := Outcome.bind_eq_ok_iff.mp (hstep.symm.trans hresult)
        exact recalls_of_reenter hn hq hshown
  cases t with
  | advance => exact h.fire_forward (.inl rfl)
  | select index => exact h.fire_forward (.inr ⟨index, rfl⟩)
  | back =>
      cases h with
      | start hs hpast =>
          have hstep : story.step s .back = .ok s := by simp only [step, hpast]
          rw [fire_of_ok hstep]
          simpa [pastAfter, hpast] using Recalls.start hs hpast
      | past hs hpast hback hlast =>
          rw [fire_of_ok (Recalls.past hs hpast hback hlast).step_back]
          simpa [pastAfter, hpast] using hlast
  | jump id =>
      cases hnode : story.graph.node? id with
      | none =>
          have hstep : story.step s (.jump id) = .ok s := by simp only [step, hnode]
          rw [fire_of_ok hstep]
          simpa [pastAfter, hstep, hnode] using h
      | some n =>
          apply hfresh ⟨id, hnode⟩
          · simp only [step, hnode]
          · intro after hresult
            simp [pastAfter, hresult, hnode]
          · intro fault hresult
            simp only [pastAfter, hresult]
  | restart =>
      apply hfresh hstart
      · rfl
      · intro after hresult
        simp only [pastAfter, hresult]
      · intro fault hresult
        simp only [pastAfter, hresult]

theorem Recalls.run {past : List Session} (h : Recalls story s past)
    (hstart : story.graph.Holds story.start) (triggers : List Trigger) :
    Recalls story (story.run s triggers).2 (story.pastOf s past triggers) := by
  induction triggers generalizing s past with
  | nil => exact h
  | cons t triggers ih => exact ih (h.fire hstart t)

theorem opening_eq_ok {first : Session} (h : story.opening = .ok first) :
    ∃ q, story.reenter { store := Store.ofNamespaces story.graph.document.namespaces, route := {} }
        story.start = .ok q ∧ story.shown q = .ok first :=
  Outcome.bind_eq_ok_iff.mp h

section Documents

variable {document : Document} {settings : Settings}

theorem holds_start (h : ofDocument document settings = .ok story) :
    story.graph.Holds story.start := by
  obtain ⟨hgraph, -, hstart⟩ := ofDocument_eq_ok h
  have hmem := Graph.mem_nodes_of_findStart hstart
  rw [Graph.document_of_ofDocument hgraph] at hmem
  exact (Graph.holds_iff hgraph).mpr hmem

theorem recalls_of_opened {first : Session} (h : opened document settings = .ok (story, first)) :
    story.graph.Holds story.start ∧ Recalls story first [] := by
  obtain ⟨hstory, hopening⟩ := opened_eq_ok_iff.mp h
  have hstart := holds_start hstory
  obtain ⟨q, hq, hshown⟩ := opening_eq_ok hopening
  exact ⟨hstart, recalls_of_reenter hstart hq hshown⟩

theorem Reachable.recalls (h : Reachable document settings story s) :
    story.graph.Holds story.start ∧ ∃ past, Recalls story s past := by
  obtain ⟨first, triggers, hopened, rfl⟩ := h
  obtain ⟨hstart, hfirst⟩ := recalls_of_opened hopened
  exact ⟨hstart, _, hfirst.run hstart triggers⟩

/-- A property of sessions holds in every session of every run if the start brings it about
and whatever a trigger attempts from a sound session keeps it. -/
theorem Reachable.keeps {P : Session → Prop}
    (hfirst : ∀ p q after, story.graph.Holds story.start → story.reenter p story.start = .ok q →
      story.shown q = .ok after → P after)
    (hattempt : ∀ s t q after, story.graph.Holds story.start → story.Sound s → P s →
      Attempt story s t (.ok q) → story.shown q = .ok after → P after)
    {s : Session} (h : Reachable document settings story s) : story.Sound s ∧ P s := by
  obtain ⟨first, triggers, hopened, rfl⟩ := h
  obtain ⟨hstart, hpast⟩ := recalls_of_opened hopened
  obtain ⟨q, hq, hshown⟩ := opening_eq_ok (opened_eq_ok_iff.mp hopened).2
  have hrun : (∃ past, Recalls story (story.run first triggers).2 past) ∧
      P (story.run first triggers).2 := by
    refine run_keeps (P := fun s => (∃ past, Recalls story s past) ∧ P s) ?_
      ⟨⟨[], hpast⟩, hfirst _ q first hstart hq hshown⟩ triggers
    rintro s t after ⟨⟨past, hpast⟩, hs⟩ hstep
    have hafter := hpast.fire hstart t
    rw [fire_of_ok hstep] at hafter
    refine ⟨⟨_, hafter⟩, ?_⟩
    rcases step_eq_ok hstep with rfl | ⟨q, hq, hshown⟩
    · exact hs
    · exact hattempt s t q after hstart hpast.sound hs hq hshown
  obtain ⟨⟨past, hpast⟩, hlast⟩ := hrun
  exact ⟨hpast.sound, hlast⟩

/-- In every session of every run, the chain of sessions to go back to is as long as the
list of checkpoints, and going back succeeds and brings back the newest session of the
chain exactly: its variables, its route and what it shows. -/
theorem back_restores_past {first : Session} (h : opened document settings = .ok (story, first))
    (triggers : List Trigger) :
    (story.pastOf first [] triggers).length =
        (story.run first triggers).2.progress.route.checkpoints.length ∧
      ∀ last older, story.pastOf first [] triggers = last :: older →
        story.fire (story.run first triggers).2 .back = (.ok last.display, last) := by
  obtain ⟨hstart, hfirst⟩ := recalls_of_opened h
  have hrun := hfirst.run hstart triggers
  refine ⟨hrun.length_eq, ?_⟩
  intro last older hpast
  rw [hpast] at hrun
  exact fire_of_ok hrun.step_back

/-- From the end of the tour the reader goes back to the hub that was left before. -/
theorem back_restores_past_of_tour :
    ∃ story first last older, opened crossroads {} = .ok (story, first) ∧
      story.pastOf first [] tour = last :: older ∧ older.length = 3 ∧
      last.progress.route.history.map Node.id = ["gate", "hub", "key", "bed"] ∧
      story.fire (story.run first tour).2 .back = (.ok last.display, last) := by
  have hopened : opened crossroads {} = .ok (_, _) := rfl
  exact ⟨_, _, _, _, hopened, rfl, rfl, rfl, (back_restores_past hopened tour).2 _ _ rfl⟩

/-- A session with a chain of sessions to go back to, in all of which a property holds
and the variables were declared by the document. -/
def Kept (story : Story) (P : Session → Prop) (document : Document) (s : Session) : Prop :=
  ∃ past, Recalls story s past ∧ ∀ x ∈ s :: past, P x ∧
    x.progress.store.initial = (Store.ofNamespaces document.namespaces).initial

/-- A property of sessions holds in every session of every run if fresh entries with the
declared variables bring it about and forward moves keep it. Nothing has to be shown of
going back, since that leads to a session in which the property was seen to hold. -/
theorem Reachable.keeps_forward {P : Session → Prop}
    (hfresh : ∀ p n q after, story.graph.Holds n →
      p.store.initial = (Store.ofNamespaces document.namespaces).initial →
      story.reenter p n = .ok q → story.shown q = .ok after → P after)
    (hforward : ∀ s q after, story.Sound s → P s → Forward story s.progress q →
      story.shown q = .ok after → P after)
    {s : Session} (h : Reachable document settings story s) : story.Sound s ∧ P s := by
  obtain ⟨first, triggers, hopened, rfl⟩ := h
  obtain ⟨hstory, hopening⟩ := opened_eq_ok_iff.mp hopened
  have hdocument := Graph.document_of_ofDocument (ofDocument_eq_ok hstory).1
  have hstart := holds_start hstory
  obtain ⟨q, hq, hshown⟩ := opening_eq_ok hopening
  rw [hdocument] at hq
  have hreentered {p q : Progress} {n : Node} {after : Session} (hn : story.graph.Holds n)
      (hp : p.store.initial = (Store.ofNamespaces document.namespaces).initial)
      (hq : story.reenter p n = .ok q) (hshown : story.shown q = .ok after) :
      story.Kept P document after := by
    refine ⟨[], recalls_of_reenter hn hq hshown, ?_⟩
    intro x hx
    rw [List.mem_singleton.mp hx]
    obtain ⟨-, -, hinitial, -⟩ := reenter_eq_ok hn hq
    exact ⟨hfresh p n q after hn hp hq hshown, by rw [(shown_eq_ok hshown).1, hinitial, hp]⟩
  -- The chain carries what holds of the sessions in it, so a return needs no step of its own.
  have hrun : story.Kept P document (story.run first triggers).2 := by
    refine run_keeps ?_ (hreentered hstart rfl hq hshown) triggers
    rintro s t after ⟨past, hpast, hall⟩ hstep
    have hs := hall s (by simp)
    rcases hpast.step_cases hstart hstep with
      rfl | ⟨q, hq, hshown⟩ | ⟨older, rfl, holder⟩ | ⟨n, q, hn, hq, hshown⟩
    · exact ⟨past, hpast, hall⟩
    · have hafter : P after ∧ after.progress.store.initial =
          (Store.ofNamespaces document.namespaces).initial := by
        refine ⟨hforward s q after hpast.sound hs.1 hq hshown, ?_⟩
        rw [(shown_eq_ok hshown).1, hq.initial_eq, hs.2]
      rcases hpast.forward hq hshown with ⟨-, hchain⟩ | ⟨-, hchain⟩
      · exact ⟨s :: past, hchain, List.forall_mem_cons.mpr ⟨hafter, hall⟩⟩
      · refine ⟨past, hchain, List.forall_mem_cons.mpr ⟨hafter, ?_⟩⟩
        intro x hx
        exact hall x (by simp [hx])
    · refine ⟨older, holder, ?_⟩
      intro x hx
      exact hall x (by simp [List.mem_cons.mp hx])
    · exact hreentered hn hs.2 hq hshown
  obtain ⟨past, hpast, hall⟩ := hrun
  exact ⟨hpast.sound, (hall _ (by simp)).1⟩

end Documents

end Story

end Narrative
