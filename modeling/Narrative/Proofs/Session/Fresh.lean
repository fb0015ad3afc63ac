import Narrative.Proofs.Session.Transaction
import Narrative.Proofs.Session.Undo

/-!
What is shown is never out of date. The route, the variables and what is shown are changed
one after another while a session is worked on in place, and a choice is taken from what is
shown, not from the graph. In every session of every run, though, showing the position again
gives what is shown already, and each choice is enabled just as the guard of the node that it
leads to says of the present variables.
-/

namespace Narrative

namespace Graph

/-- The display that belongs to a position with the variables of a progress. -/
inductive Shows (g : Graph) (p : Progress) : Position → Display → Prop where
  | displaying {n : Node} {c : Content} (hnode : c.node = n) :
      Shows g p (.displaying n) (.content c)
  | offering {n : Node} {offer : Offer} (hnode : offer.node = n)
      (hchoices : g.choices p.store n = .ok offer.choices) :
      Shows g p (.offering n) (.choices offer)
  | ended : Shows g p .ended .ended

variable {g : Graph} {p : Progress} {n : Node} {store : Store}

theorem shows_of_render {display : Display} (h : g.render p = .ok display) :
    g.Shows p p.route.position display := by
  unfold render at h
  split at h
  · rename_i hposition
    cases h
    rw [hposition]
    exact .ended
  · rename_i n hposition
    cases h
    rw [hposition]
    exact .displaying rfl
  · rename_i n hposition
    obtain ⟨choices, hchoices, rfl⟩ := Outcome.map_eq_ok_iff.mp h
    rw [hposition]
    exact .offering rfl hchoices

section Display

variable {position : Position} {display : Display}

theorem Shows.ended_iff (h : g.Shows p position display) :
    position = .ended ↔ display = .ended := by
  cases h <;> simp

theorem Shows.displaying_iff (h : g.Shows p position display) :
    position = .displaying n ↔ ∃ c, display = .content c ∧ c.node = n := by
  cases h with
  | displaying hnode => simp [hnode]
  | offering => simp
  | ended => simp

theorem Shows.offering_iff (h : g.Shows p position display) :
    position = .offering n ↔ ∃ offer, display = .choices offer ∧ offer.node = n := by
  cases h with
  | displaying => simp
  | offering hnode => simp [hnode]
  | ended => simp

end Display

theorem guardHolds_of_admits {enabled : Bool} (h : admits store n = .ok enabled) :
    Script.guardHolds n.guardText store = .ok enabled := by
  unfold admits at h
  split at h
  · rename_i hempty
    cases h
    rw [String.isEmpty_iff.mp hempty, Script.guardHolds_empty]
  · exact Fault.ofScript_eq_ok_iff.mp h

/-- The choice of a node other than a condition at some place leads over the edge at that place,
keeps the place as its index, and has the guard of the node behind the edge, which says whether it
is enabled. -/
theorem edge_of_getElem?_choices (hkind : g.kindOf n ≠ .condition) {choices : List Choice}
    (h : g.choices store n = .ok choices) {index : Nat} {choice : Choice}
    (hchoice : choices[index]? = some choice) :
    ∃ edge, n.edges[index]? = some edge ∧ g.resolve n edge = .ok choice.target ∧
      choice.index = index ∧ choice.guardText = choice.target.guardText ∧
      Script.guardHolds choice.guardText store = .ok choice.enabled := by
  unfold Graph.choices at h
  rw [if_neg hkind] at h
  obtain ⟨⟨edge, place⟩, hplace, hedge⟩ := Outcome.getElem?_of_mapM h hchoice
  rw [List.getElem?_zipIdx, Option.map_eq_some_iff] at hplace
  obtain ⟨_, hmem, heq⟩ := hplace
  cases heq
  obtain ⟨hindex, htarget, hguard, hadmits⟩ := edgeChoice_eq_ok hedge
  refine ⟨_, hmem, htarget, hindex.trans (Nat.zero_add index), hguard, ?_⟩
  rw [hguard]
  exact guardHolds_of_admits hadmits

theorem kindOf_ne_condition_of_offering (h : g.Stands (.offering n)) :
    g.kindOf n ≠ .condition := by
  intro hkind
  have hrests := h.2
  simp [hkind] at hrests

end Graph

namespace Story

variable {document : Document} {settings : Settings} {story : Story} {s : Session}

/-- What is shown in a session is what its position and its variables give. -/
structure Fresh (story : Story) (s : Session) : Prop where
  render : story.graph.render s.progress = .ok s.display
  ended : s.progress.route.position = .ended ↔ s.display = .ended
  displaying (n : Node) : s.progress.route.position = .displaying n ↔
    ∃ c, s.display = .content c ∧ c.node = n
  offering (n : Node) : s.progress.route.position = .offering n ↔
    ∃ offer, s.display = .choices offer ∧ offer.node = n
  choicesFor (offer : Offer) : s.display = .choices offer →
    story.choicesFor s offer.node = .ok offer.choices
  target (offer : Offer) (choice : Choice) : s.display = .choices offer → choice ∈ offer.choices →
    story.graph.node? choice.target.id = some choice.target
  guard (offer : Offer) (choice : Choice) : s.display = .choices offer → choice ∈ offer.choices →
    choice.guardText = choice.target.guardText ∧
      Script.guardHolds choice.guardText s.progress.store = .ok choice.enabled

/-- The choices that are shown, seen from the graph. -/
theorem Sound.offered (h : story.Sound s) {offer : Offer} (hdisplay : s.display = .choices offer) :
    s.progress.route.position = .offering offer.node ∧
      ∀ (place : Nat) (choice : Choice), offer.choices[place]? = some choice →
        ∃ edge, offer.node.edges[place]? = some edge ∧
          story.graph.resolve offer.node edge = .ok choice.target ∧ choice.index = place ∧
          choice.guardText = choice.target.guardText ∧
          Script.guardHolds choice.guardText s.progress.store = .ok choice.enabled := by
  obtain ⟨hposition, hchoices⟩ := h.choices_of_display hdisplay
  have hstands := h.stands
  rw [hposition] at hstands
  have hkind := Graph.kindOf_ne_condition_of_offering hstands
  exact ⟨hposition, fun place choice => Graph.edge_of_getElem?_choices hkind hchoices⟩

theorem Sound.fresh (hgraph : Graph.ofDocument document = .ok story.graph) (h : story.Sound s) :
    story.Fresh s := by
  have hshows := Graph.shows_of_render h.display
  have hoffer {offer : Offer} (hdisplay : s.display = .choices offer) :
      ∀ choice ∈ offer.choices, story.graph.Holds choice.target ∧
        choice.guardText = choice.target.guardText ∧
        Script.guardHolds choice.guardText s.progress.store = .ok choice.enabled := by
    intro choice hmem
    obtain ⟨place, hchoice⟩ := List.mem_iff_getElem?.mp hmem
    obtain ⟨edge, -, htarget, -, hguard⟩ := (h.offered hdisplay).2 place choice hchoice
    exact ⟨Graph.holds_of_resolve htarget, hguard⟩
  exact
    { render := h.display
      ended := hshows.ended_iff
      displaying := fun n => hshows.displaying_iff
      offering := fun n => hshows.offering_iff
      choicesFor := fun offer hdisplay => (h.choices_of_display hdisplay).2
      target := fun offer choice hdisplay hchoice =>
        Graph.node?_id hgraph (hoffer hdisplay choice hchoice).1
      guard := fun offer choice hdisplay hchoice => (hoffer hdisplay choice hchoice).2 }

/-- In every run that works in place, through every fault and everything taken back, what is
shown is fresh. -/
theorem fresh_of_operate {first : Session} (h : opened document settings = .ok (story, first))
    (triggers : List Trigger) : story.Fresh ((story.operate triggers).run first).2 := by
  rw [run_operate]
  have hreachable : Reachable document settings story (story.run first triggers).2 :=
    ⟨first, triggers, h, rfl⟩
  obtain ⟨-, past, hpast⟩ := hreachable.recalls
  exact hpast.sound.fresh (ofDocument_eq_ok (opened_eq_ok_iff.mp h).1).1

/-- Where the tour ends, the guarded line offers two choices, and these are what the graph gives
for it. -/
theorem fresh_of_operate_tour :
    ∃ story first offer, opened crossroads {} = .ok (story, first) ∧
      ((story.operate tour).run first).2.display = .choices offer ∧
      offer.choices.map (fun choice => (choice.target.id, choice.enabled)) =
        [("hub", true), ("hole", true)] ∧
      story.choicesFor ((story.operate tour).run first).2 offer.node = .ok offer.choices := by
  obtain ⟨story, first, offer, hopened, hdisplay, hchoices⟩ : ∃ story first offer,
      opened crossroads {} = .ok (story, first) ∧
        (story.run first tour).2.display = .choices offer ∧
        offer.choices.map (fun choice => (choice.target.id, choice.enabled)) =
          [("hub", true), ("hole", true)] := ⟨_, _, _, rfl, rfl, rfl⟩
  rw [← run_operate] at hdisplay
  exact ⟨story, first, offer, hopened, hdisplay, hchoices,
    (fresh_of_operate hopened tour).choicesFor offer hdisplay⟩

end Story

end Narrative
