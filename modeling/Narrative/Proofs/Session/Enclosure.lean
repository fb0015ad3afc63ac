import Narrative.Proofs.Graph.Enclosing
import Narrative.Proofs.Session.Diagnosis
import Narrative.Proofs.Session.Records

/-!
Whether the open containers lie around the reader. A container is opened where it is entered
and closed where the reader comes back to it; nothing closes it when an edge leads out of it
to somewhere else. Where no link does that, the open containers lie one inside of another
around every node that a reader comes to, and a container that the reader comes to from
outside is entered. Where one does, a container can be left that is not entered.
-/

namespace Narrative

namespace Graph

variable {document : Document} {g : Graph} {store : Store} {containers : List Node}
  {n m source : Node}

/-- Whether a node leads to another one, over an edge or as the target of a jump. -/
def Links (g : Graph) (n m : Node) : Prop :=
  g.Holds n ∧ ∃ id, g.RefersTo n id ∧ g.node? id = some m

/-- Whether no link leads out of a container, except to the container itself. -/
def Contained (g : Graph) : Prop :=
  ∀ n m container, g.Links n m → g.kindOf container = .container → g.Around container n →
    container = m ∨ g.Around container m

/-- Whether the open containers lie around a node, each around those that are further in. -/
def Nested (g : Graph) (n : Node) (containers : List Node) : Prop :=
  (n :: containers).Pairwise fun inner outer => g.Around outer inner

/-- What the ways from node to node rely on: every node has its own id, none lies around
itself, a container lies around its first child, and no link leads out of a container. -/
structure Tidy (g : Graph) : Prop where
  node?_id {n : Node} : g.Holds n → g.node? n.id = some n
  acyclic (n : Node) : ¬g.Around n n
  around_firstChild? {n child : Node} : g.Holds n → g.firstChild? n = some child →
    g.Around n child
  contained : g.Contained

theorem tidy_of_ofDocument (hg : ofDocument document = .ok g)
    (hids : (document.outline.walk.map Outline.id).Nodup) (hacyclic : ∀ n, ¬g.Around n n)
    (hcontained : g.Contained) : g.Tidy where
  node?_id := node?_id hg
  acyclic := hacyclic
  around_firstChild? hn hchild := around_of_parent? (parent?_of_firstChild? hg hids hn hchild)
  contained := hcontained

section Nesting

theorem nested_cons {container : Node} : g.Nested n (container :: containers) ↔
    (g.Around container n ∧ ∀ outer ∈ containers, g.Around outer n) ∧
      g.Nested container containers := by
  simp [Nested, List.pairwise_cons]

theorem Nested.around (h : g.Nested n containers) {container : Node}
    (hmem : container ∈ containers) : g.Around container n :=
  (List.pairwise_cons.mp h).1 container hmem

theorem Nested.push (h : g.Nested n containers) (hinside : g.Around n m) :
    g.Nested m (n :: containers) := by
  refine nested_cons.mpr ⟨⟨hinside, ?_⟩, h⟩
  intro outer hmem
  exact (h.around hmem).trans hinside

theorem Nested.nodup (h : g.Nested n containers) (hacyclic : ∀ n, ¬g.Around n n) :
    containers.Nodup := by
  refine (List.pairwise_cons.mp h).2.imp ?_
  rintro inner outer haround rfl
  exact hacyclic _ haround

theorem nested_containersAround (steps : Nat) (n : Node) :
    g.Nested n (g.containersAround steps n) :=
  pairwise_containersAround g steps n

/-- How a reader comes from one node to another: with the open containers nested around it,
or back to the innermost of them from somewhere inside of it. -/
inductive ComesTo (g : Graph) (source : Node) : List Node → Node → Prop where
  | within {containers : List Node} {n : Node} (h : g.Nested n containers) :
      ComesTo g source containers n
  | back {outer : List Node} {n : Node} (hinside : g.Around n source) (h : g.Nested n outer) :
      ComesTo g source (n :: outer) n

/-- Over a link the reader stays within the innermost open container or comes back to it. -/
theorem Tidy.comesTo_of_links (h : g.Tidy) (hopen : g.Encloses containers)
    (hnested : g.Nested n containers) (hlink : g.Links n m) : g.ComesTo n containers m := by
  cases containers with
  | nil => exact .within (List.pairwise_singleton _ _)
  | cons container outer =>
      obtain ⟨⟨hinside, -⟩, houter⟩ := nested_cons.mp hnested
      have hkind := (hopen container (by simp)).2
      rcases h.contained n m container hlink hkind hinside with rfl | hstays
      · exact .back hinside houter
      · exact .within (houter.push hstays)

/-- A node is not the innermost of the containers that are nested around it. -/
theorem isInnermost_eq_false (hids : ∀ n, g.Holds n → g.node? n.id = some n)
    (hacyclic : ∀ n, ¬g.Around n n) (hn : g.Holds n) (hnested : g.Nested n containers) :
    isInnermost n containers = false := by
  cases containers with
  | nil => rfl
  | cons container outer =>
      have hinside := hnested.around List.mem_cons_self
      simp only [isInnermost, decide_eq_false_iff_not]
      intro hid
      have hsame : g.node? container.id = some n := hid ▸ hids n hn
      rw [hids container hinside.holds, Option.some.injEq] at hsame
      exact hacyclic n (hsame ▸ hinside)

theorem Tidy.isInnermost_of_nested (h : g.Tidy) (hn : g.Holds n)
    (hnested : g.Nested n containers) : isInnermost n containers = false :=
  isInnermost_eq_false (fun _ => h.node?_id) h.acyclic hn hnested

theorem ComesTo.nested_of_ne (h : g.ComesTo source containers n) (hopen : g.Encloses containers)
    (hkind : g.kindOf n ≠ .container) : g.Nested n containers := by
  cases h with
  | within hnested => exact hnested
  | back => exact absurd (hopen n (by simp)).2 hkind

theorem ComesTo.nested_of_outside (h : g.ComesTo source containers n)
    (houtside : ¬g.Around n source) : g.Nested n containers := by
  cases h with
  | within hnested => exact hnested
  | back hinside => exact absurd hinside houtside

theorem ComesTo.nested_of_displayed (h : g.ComesTo source containers n)
    (hopen : g.Encloses containers) (hdisplayed : (g.kindOf n).isDisplayed = true) :
    g.Nested n containers := by
  apply h.nested_of_ne hopen
  intro hkind
  simp [hkind, Kind.isDisplayed] at hdisplayed

end Nesting

section Hops

theorem Links.holds (h : g.Links n m) : g.Holds m := by
  obtain ⟨-, id, -, hm⟩ := h
  exact ⟨id, hm⟩

theorem links_of_resolve (hn : g.Holds n) {edge : Edge} (hedge : edge ∈ n.edges)
    (h : g.resolve n edge = .ok m) : g.Links n m :=
  ⟨hn, edge.target, .inl ⟨edge, hedge, rfl⟩, resolve_eq_ok_iff.mp h⟩

theorem links_of_jumpTarget (hn : g.Holds n) (hkind : g.kindOf n = .jump)
    (h : g.jumpTarget n = .ok m) : g.Links n m := by
  unfold jumpTarget at h
  split at h
  · rename_i target htarget
    obtain ⟨hfield, hblank⟩ := Option.filter_eq_some_iff.mp htarget
    have hrefers : g.RefersTo n target := .inr ⟨hkind, hfield, by simpa using hblank⟩
    split at h
    · rename_i node hnode
      cases h
      exact ⟨hn, target, hrefers, hnode⟩
    · cases h
  · split at h
    · rename_i edge hedges
      exact links_of_resolve hn (by simp [hedges]) h
    · cases h

theorem links_of_branchTarget (hn : g.Holds n) (h : g.branchTarget store n = .ok m) :
    g.Links n m := by
  obtain ⟨holds, -, hbranch⟩ := Outcome.bind_eq_ok_iff.mp h
  split at hbranch
  · rename_i edge hedge
    obtain ⟨pin, hpin, hhead⟩ := Option.bind_eq_some_iff.mp hedge
    refine links_of_resolve hn ?_ hbranch
    exact List.mem_flatMap.mpr ⟨pin, List.mem_of_getElem? hpin, List.mem_of_head? hhead⟩
  · cases hbranch

/-- What a hop does to the nesting: the reader comes to the next node, or is where the open
containers are nested around. -/
def KeepsNesting (g : Graph) (n : Node) : Hop → Prop
  | .on next containers => g.ComesTo n containers next
  | .rest position containers => ∀ m, position.node? = some m → g.Nested m containers

variable {next : Hop}

theorem Tidy.keepsNesting_of_links (h : g.Tidy) (hopen : g.Encloses containers)
    (hnested : g.Nested n containers) {reading : Except Fault Node}
    (hlink : ∀ m, reading = .ok m → g.Links n m)
    (hhop : (reading.map fun target => Hop.on target containers) = .ok next) :
    g.KeepsNesting n next := by
  obtain ⟨target, htarget, rfl⟩ := Outcome.map_eq_ok_iff.mp hhop
  exact h.comesTo_of_links hopen hnested (hlink target htarget)

theorem Tidy.keepsNesting_of_ownEdges (h : g.Tidy) (hn : g.Holds n)
    (hopen : g.Encloses containers) (hnested : g.Nested n containers)
    (hhop : g.ownEdges containers n = .ok next) : g.KeepsNesting n next := by
  rcases ownEdges_eq_ok hhop with ⟨-, rfl⟩ | ⟨edge, target, hedges, htarget, rfl⟩ | ⟨-, rfl⟩
  · intro m hm
    cases hm
  · exact h.comesTo_of_links hopen hnested (links_of_resolve hn (by simp [hedges]) htarget)
  · intro m hm
    cases hm
    exact hnested

/-- One hop keeps the nesting: a container is entered unless the reader comes back to it, and
then it is closed before its own edges are followed. -/
theorem Tidy.keepsNesting_of_hop (h : g.Tidy) (hn : g.Holds n) (hopen : g.Encloses containers)
    (hcomes : g.ComesTo source containers n) (hhop : g.hop store containers n = .ok next) :
    g.KeepsNesting n next := by
  have hstay (hkind : g.kindOf n ≠ .container) : g.Nested n containers :=
    hcomes.nested_of_ne hopen hkind
  unfold hop at hhop
  split at hhop
  · rename_i hkind
    cases hhop
    rintro m ⟨⟩
    exact hstay (by simp [hkind])
  · rename_i hkind
    cases hhop
    rintro m ⟨⟩
    exact hstay (by simp [hkind])
  · rename_i hkind
    cases hhop
    rintro m ⟨⟩
    exact hstay (by simp [hkind])
  · rename_i hkind
    exact h.keepsNesting_of_links hopen (hstay (by simp [hkind]))
      (fun m => links_of_jumpTarget hn hkind) hhop
  · rename_i hkind
    exact h.keepsNesting_of_links hopen (hstay (by simp [hkind]))
      (fun m => links_of_branchTarget hn) hhop
  · -- How the reader has come here decides whether this container is the innermost open one.
    cases hcomes with
    | within hnested =>
        rw [h.isInnermost_of_nested hn hnested] at hhop
        simp only [Bool.false_eq_true, if_false] at hhop
        split at hhop
        · rename_i child hchild
          cases hhop
          exact .within (hnested.push (h.around_firstChild? hn hchild))
        · exact h.keepsNesting_of_ownEdges hn hopen hnested hhop
    | back _ houter =>
        rw [if_pos (by simp [isInnermost])] at hhop
        exact h.keepsNesting_of_ownEdges hn (fun m hmem => hopen m (List.mem_cons_of_mem _ hmem))
          houter hhop
  · cases hhop

theorem Tidy.comesTo_of_leadsTo (h : g.Tidy) {here there : List Node × Node}
    (hwalk : g.LeadsTo store here there) (hhere : g.Holds here.2) (hopen : g.Encloses here.1)
    (hcomes : g.ComesTo source here.1 here.2) :
    ∃ source, g.ComesTo source there.1 there.2 := by
  induction hwalk with
  | refl => exact ⟨source, hcomes⟩
  | tail hwalk hhop ih =>
      obtain ⟨last, hlast⟩ := ih
      exact ⟨_, h.keepsNesting_of_hop (holds_of_leadsTo hwalk hhere)
        (encloses_of_leadsTo hwalk hhere hopen) hlast hhop⟩

theorem Tidy.nested_of_settle (h : g.Tidy) {budget : Nat} {after : List Node}
    {position : Position} (hn : g.Holds n) (hopen : g.Encloses containers)
    (hcomes : g.ComesTo source containers n)
    (hsettle : g.settle store budget containers n = .ok (position, after))
    (hm : position.node? = some m) : g.Nested m after := by
  obtain ⟨here, hwalk, hhop⟩ := exists_rest_of_settle hsettle
  obtain ⟨last, hlast⟩ := h.comesTo_of_leadsTo hwalk hn hopen hcomes
  exact h.keepsNesting_of_hop (holds_of_leadsTo hwalk hn) (encloses_of_leadsTo hwalk hn hopen)
    hlast hhop m hm

end Hops

section Arrivals

/-- The ways in which a reader at a node, with containers open, can arrive at nodes from
others: over a link of the node, by an automatic hop whatever the variables are, or over a
link of a shown node that was come to and is left or passed by. -/
inductive Arrives (g : Graph) (n : Node) (containers : List Node) :
    Node → List Node × Node → Prop where
  | link {m : Node} (hlink : g.Links n m) : Arrives g n containers n (containers, m)
  | hop {source : Node} {here there : List Node × Node} (h : Arrives g n containers source here)
      {store : Store} (hhop : g.HopsTo store here there) : Arrives g n containers here.2 there
  | pass {source m : Node} {here : List Node × Node} (h : Arrives g n containers source here)
      (hdisplayed : (g.kindOf here.2).isDisplayed = true) (hlink : g.Links here.2 m) :
      Arrives g n containers here.2 (here.1, m)

/-- That the open containers really enclose a reader at a node: each lies around it and is
open once, and a container that the reader arrives at from outside is entered. -/
structure OpenAround (g : Graph) (n : Node) (containers : List Node) : Prop where
  around : ∀ container ∈ containers, g.Around container n
  nodup : containers.Nodup
  enters (source : Node) (here : List Node × Node) (child : Node) (store : Store) :
    g.Arrives n containers source here → g.kindOf here.2 = .container →
      ¬g.Around here.2 source → g.firstChild? here.2 = some child →
        g.HopsTo store here (here.2 :: here.1, child)

theorem Tidy.comesTo_of_arrives (h : g.Tidy) (hopen : g.Encloses containers)
    (hnested : g.Nested n containers) {here : List Node × Node}
    (harrives : g.Arrives n containers source here) :
    g.Holds here.2 ∧ g.Encloses here.1 ∧ g.ComesTo source here.1 here.2 := by
  induction harrives with
  | link hlink => exact ⟨hlink.holds, hopen, h.comesTo_of_links hopen hnested hlink⟩
  | hop _ hhop ih =>
      obtain ⟨hhere, hopenHere, hcomes⟩ := ih
      exact ⟨holds_of_hop hhop, encloses_of_hop hhere hopenHere hhop,
        h.keepsNesting_of_hop hhere hopenHere hcomes hhop⟩
  | pass _ hdisplayed hlink ih =>
      obtain ⟨-, hopenHere, hcomes⟩ := ih
      have hnestedHere := hcomes.nested_of_displayed hopenHere hdisplayed
      exact ⟨hlink.holds, hopenHere, h.comesTo_of_links hopenHere hnestedHere hlink⟩

theorem Tidy.openAround_of_nested (h : g.Tidy) (hopen : g.Encloses containers)
    (hnested : g.Nested n containers) : g.OpenAround n containers where
  around container hmem := hnested.around hmem
  nodup := hnested.nodup h.acyclic
  enters source here child store harrives hkind houtside hchild := by
    obtain ⟨hhere, -, hcomes⟩ := h.comesTo_of_arrives hopen hnested harrives
    have houter := h.isInnermost_of_nested hhere (hcomes.nested_of_outside houtside)
    simp [HopsTo, Graph.hop, hkind, houter, hchild]

end Arrivals

/-- Whether the containers of a route are nested, around the reader and around every node to
which the reader can go back. -/
structure NestedOn (g : Graph) (r : Route) : Prop where
  position : ∀ n, r.position.node? = some n → g.Nested n r.containers
  checkpoints : ∀ c ∈ r.checkpoints, g.Nested c.node c.containers

theorem NestedOn.rewind {p : Progress} (h : g.NestedOn p.route) :
    g.NestedOn (g.rewind p).route := by
  unfold Graph.rewind
  split
  · exact h
  · rename_i c checkpoints heq
    have hpast := h.checkpoints
    rw [heq, List.forall_mem_cons] at hpast
    refine ⟨?_, hpast.2⟩
    intro n hn
    split at hn <;>
    · cases hn
      exact hpast.1

theorem links_of_mem_choices (hn : g.Holds n) (hkind : g.kindOf n ≠ .condition)
    {choices : List Choice} (h : g.choices store n = .ok choices) {choice : Choice}
    (hmem : choice ∈ choices) : g.Links n choice.target := by
  obtain ⟨edge, hedge, htarget⟩ := exists_edge_of_mem_choices h hmem
  rw [offeredEdges, if_neg hkind] at hedge
  exact links_of_resolve hn hedge htarget

end Graph

namespace Story

variable {document : Document} {settings : Settings} {story : Story} {s : Session}
  {p q : Progress} {n source : Node}

theorem nestedOn_of_enter (h : story.graph.Tidy) (hq : story.enter p n = .ok q)
    (hn : story.graph.Holds n) (hopen : story.graph.Encloses p.route.containers)
    (hcomes : story.graph.ComesTo source p.route.containers n)
    (hpast : ∀ c ∈ p.route.checkpoints, story.graph.Nested c.node c.containers) :
    story.graph.NestedOn q.route := by
  obtain ⟨position, containers, hsettle, hroute, -, -⟩ := enter_eq_ok hq
  rw [hroute]
  exact ⟨fun m hm => h.nested_of_settle hn hopen hcomes hsettle hm, hpast⟩

theorem nestedOn_of_reenter (h : story.graph.Tidy) (hn : story.graph.Holds n)
    (hq : story.reenter p n = .ok q) : story.graph.NestedOn q.route := by
  have hcomes : story.graph.ComesTo n (story.graph.enclosingContainers n) n :=
    .within (Graph.nested_containersAround _ n)
  refine nestedOn_of_enter h hq hn (Graph.encloses_containersAround _ n) hcomes ?_
  intro c hmem
  cases hmem

theorem nested_of_leave {text : String} {isChoice : Bool} {skipped : Option Node}
    (hp : story.graph.NestedOn p.route) (hnested : story.graph.Nested n p.route.containers) :
    ∀ c ∈ (p.leave n text isChoice skipped).route.checkpoints,
      story.graph.Nested c.node c.containers :=
  List.forall_mem_cons.mpr ⟨hnested, hp.checkpoints⟩

theorem nestedOn_of_advanceFrom (h : story.graph.Tidy) (hn : story.graph.Holds n)
    (hposition : p.route.position = .displaying n) (hopen : story.graph.Encloses p.route.containers)
    (hp : story.graph.NestedOn p.route) (hq : story.advanceFrom p n = .ok q) :
    story.graph.NestedOn q.route := by
  have hnested : story.graph.Nested n p.route.containers := hp.position n (by rw [hposition]; rfl)
  unfold advanceFrom at hq
  simp only at hq
  split at hq
  · cases hq
  · split at hq
    · cases hq
      refine ⟨?_, nested_of_leave hp hnested⟩
      intro m hm
      cases hm
    · rename_i edge hedges
      obtain ⟨next, hnext, henter⟩ := Outcome.bind_eq_ok_iff.mp hq
      have hlink := Graph.links_of_resolve hn (by simp [hedges]) hnext
      exact nestedOn_of_enter h henter hlink.holds hopen (h.comesTo_of_links hopen hnested hlink)
        (nested_of_leave hp hnested)
    · cases hq
      refine ⟨?_, hp.checkpoints⟩
      rintro m ⟨⟩
      exact hnested

theorem nestedOn_of_choose {target : Node} {text : String} (h : story.graph.Tidy)
    (hlink : story.graph.Links n target) (hposition : p.route.position = .offering n)
    (hopen : story.graph.Encloses p.route.containers) (hp : story.graph.NestedOn p.route)
    (hq : story.choose p n target text = .ok q) : story.graph.NestedOn q.route := by
  have hnested : story.graph.Nested n p.route.containers := hp.position n (by rw [hposition]; rfl)
  have hcomes := h.comesTo_of_links hopen hnested hlink
  rcases choose_cases hq with
    ⟨edge, next, performed, hdisplayed, hedges, hnext, hperformed, henter⟩ | henter
  · obtain ⟨-, -, hroute⟩ := visit_of_perform hperformed
    have hthrough := Graph.links_of_resolve hlink.holds (by simp [hedges]) hnext
    have hpassed := hcomes.nested_of_displayed hopen hdisplayed
    have hcontainers : (performed.route.pass target).containers = p.route.containers := by
      rw [hroute]
      rfl
    have hcomesOn := hcontainers ▸ h.comesTo_of_links hopen hpassed hthrough
    refine nestedOn_of_enter h henter hthrough.holds (hcontainers ▸ hopen) hcomesOn ?_
    rw [Route.pass, hroute]
    exact nested_of_leave hp hnested
  · exact nestedOn_of_enter h henter hlink.holds hopen hcomes (nested_of_leave hp hnested)

/-- What a trigger attempts keeps the containers nested, going back included. -/
theorem nestedOn_of_attempt (h : story.graph.Tidy) (hs : story.Sound s)
    (hstart : story.graph.Holds story.start) (hrecorded : story.graph.Recorded s.progress.route)
    (hnested : story.graph.NestedOn s.progress.route) {t : Trigger}
    (hattempt : Attempt story s t (.ok q)) : story.graph.NestedOn q.route := by
  have hstands := hs.stands
  rcases attempt_cases hs hstart hattempt rfl with ⟨n, hposition, hadvance⟩ |
    ⟨n, choices, choice, hmem, hposition, hchoices, hchoose⟩ | rfl | ⟨n, hn, hreenter⟩
  · rw [hposition] at hstands
    exact nestedOn_of_advanceFrom h hstands.1 hposition hrecorded.containers hnested hadvance
  · rw [hposition] at hstands
    have hlink := Graph.links_of_mem_choices hstands.1
      (Graph.kindOf_ne_condition_of_offering hstands) hchoices hmem
    exact nestedOn_of_choose h hlink hposition hrecorded.containers hnested hchoose
  · exact hnested.rewind
  · exact nestedOn_of_reenter h hn hreenter

theorem Reachable.nestedOn (hreachable : Reachable document settings story s)
    (h : story.graph.Tidy) : story.graph.NestedOn s.progress.route := by
  have hkept := hreachable.keeps
    (P := fun s => story.graph.Recorded s.progress.route ∧ story.graph.NestedOn s.progress.route)
    ?_ ?_
  · exact hkept.2.2
  · intro p q after hstart hq hshown
    rw [(shown_eq_ok hshown).1]
    exact ⟨recorded_of_reenter hstart hq, nestedOn_of_reenter h hstart hq⟩
  · intro s t q after hstart hs hs' hattempt hshown
    rw [(shown_eq_ok hshown).1]
    exact ⟨recorded_of_attempt hs hstart hs'.1 hattempt,
      nestedOn_of_attempt h hs hstart hs'.1 hs'.2 hattempt⟩

/-- In every session of every run, if no outline id occurs twice, no node lies around itself
and no link leads out of a container, the open containers really enclose the reader. -/
theorem openAround_of_reachable (hids : (document.outline.walk.map Outline.id).Nodup)
    (hacyclic : ∀ n, ¬story.graph.Around n n) (hcontained : story.graph.Contained)
    (hreachable : Reachable document settings story s)
    (hn : s.progress.route.position.node? = some n) :
    story.graph.OpenAround n s.progress.route.containers := by
  obtain ⟨first, triggers, hopened, -⟩ := id hreachable
  have hgraph := (ofDocument_eq_ok (opened_eq_ok_iff.mp hopened).1).1
  have htidy := Graph.tidy_of_ofDocument hgraph hids hacyclic hcontained
  exact htidy.openAround_of_nested hreachable.recorded.2.containers
    ((hreachable.nestedOn htidy).position n hn)

end Story

/-- A small narrative in which an edge leads out of a container, past it. -/
def backDoor : Document where
  packages := [{
    name := "Main"
    nodes := [
      { id := "bed", typeName := "DialogueFragment", text := "@start",
        outputPins := [{ connections := [{ target := "yard" }] }] },
      { id := "yard", typeName := "DialogueFragment",
        outputPins := [{ connections := [{ target := "room" }] }] },
      { id := "room", typeName := "FlowFragment",
        outputPins := [{ connections := [{ target := "road" }] }] },
      { id := "road", typeName := "DialogueFragment" }] }]
  outline := .entry "" [.entry "room" [.entry "bed" []]]

namespace Graph

variable {document : Document} {g : Graph} {inner outer : Node}

/-- Where the outline has a bed in a room and nothing else, nothing else lies around anything. -/
theorem ids_of_around (hg : ofDocument document = .ok g)
    (houtline : document.outline = .entry "" [.entry "room" [.entry "bed" []]])
    (hnodes : ∀ n ∈ document.nodes, n.id ≠ "" ∧ n.parent = none) (h : g.Around outer inner) :
    inner.id = "bed" ∧ outer.id = "room" := by
  have hparent {id : String} {parent : Node} (hp : g.parent? id = some parent) :
      id = "bed" ∧ parent.id = "room" := by
    have hid := (hnodes parent ((holds_iff hg).mp (holds_of_parent? hp))).1
    rcases parent?_cases hg hp with ⟨entry, hentry, hentryId, c, hc, rfl⟩ | ⟨n, hn, -, hfield⟩
    · rw [houtline] at hentry
      simp only [Outline.walk, Outline.size, Outline.sizeOfAll, Outline.walkPending,
        List.cons_append, List.nil_append, List.mem_cons, List.not_mem_nil, or_false] at hentry
      rcases hentry with rfl | rfl | rfl
      · exact absurd hentryId.symm hid
      · obtain rfl := List.mem_singleton.mp hc
        exact ⟨rfl, hentryId.symm⟩
      · cases hc
    · rw [(hnodes n hn).2] at hfield
      cases hfield
  obtain ⟨parent, hinner⟩ := h.exists_parent
  obtain ⟨child, houter⟩ := h.exists_child
  exact ⟨(hparent hinner).1, (hparent houter).2⟩

theorem not_around_self_of_ids (hg : ofDocument document = .ok g)
    (houtline : document.outline = .entry "" [.entry "room" [.entry "bed" []]])
    (hnodes : ∀ n ∈ document.nodes, n.id ≠ "" ∧ n.parent = none) (n : Node) :
    ¬g.Around n n := by
  intro h
  obtain ⟨hbed, hroom⟩ := ids_of_around hg houtline hnodes h
  exact absurd (hbed.symm.trans hroom) (by decide)

theorem contained_crossroads (hg : ofDocument crossroads = .ok g) : g.Contained := by
  rintro n m container ⟨hn, id, hrefers, hm⟩ - haround
  obtain ⟨hbed, hroom⟩ := ids_of_around hg rfl (by decide) haround
  have hnode : ∀ n ∈ crossroads.nodes, n.id = "bed" →
      n.target = none ∧ ∀ edge ∈ n.edges, edge.target = "room" := by decide
  obtain ⟨htarget, hedges⟩ := hnode n ((holds_iff hg).mp hn) hbed
  rcases hrefers with ⟨edge, hedge, rfl⟩ | ⟨-, hjump, -⟩
  · have hcontainer := node?_id hg haround.holds
    rw [hroom, ← hedges edge hedge, hm, Option.some.injEq] at hcontainer
    exact .inl hcontainer.symm
  · rw [htarget] at hjump
    cases hjump

end Graph

namespace Story

/-- On the tour the room is open around the reader at the bed. -/
theorem openAround_of_reachable_of_tour :
    ∃ story first bed, opened crossroads {} = .ok (story, first) ∧
      (story.run first (tour.take 2)).2.progress.route.position = .displaying bed ∧
      bed.id = "bed" ∧
      (story.run first (tour.take 2)).2.progress.route.containers.map Node.id = ["room"] ∧
      story.graph.OpenAround bed (story.run first (tour.take 2)).2.progress.route.containers := by
  have hopened : opened crossroads {} = .ok (_, _) := rfl
  have hgraph := (ofDocument_eq_ok (opened_eq_ok_iff.mp hopened).1).1
  refine ⟨_, _, _, hopened, rfl, rfl, rfl, ?_⟩
  refine openAround_of_reachable ?_ ?_ ?_ ⟨_, _, hopened, rfl⟩ rfl
  · decide
  · exact Graph.not_around_self_of_ids hgraph rfl (by decide)
  · exact Graph.contained_crossroads hgraph

/-- Whoever leaves the room by the back door has it open in the yard, which it does not lie
around, and on coming to it from there is taken to leave it and not led to the bed. -/
theorem not_openAround_of_backDoor :
    (backDoor.outline.walk.map Outline.id).Nodup ∧
      ∃ story first yard room bed, opened backDoor {} = .ok (story, first) ∧
        (∀ n, ¬story.graph.Around n n) ∧
        (story.run first [.advance]).2.progress.route.position = .displaying yard ∧
        (story.run first [.advance]).2.progress.route.containers = [room] ∧
        ¬story.graph.OpenAround yard (story.run first [.advance]).2.progress.route.containers ∧
        ¬story.graph.Around room yard ∧ story.graph.Links yard room ∧
        story.graph.firstChild? room = some bed ∧ bed.id = "bed" ∧
        (story.run first [.advance, .advance]).2.progress.route.position.node?.map Node.id =
          some "road" := by
  have hopened : opened backDoor {} = .ok (_, _) := rfl
  have hgraph := (ofDocument_eq_ok (opened_eq_ok_iff.mp hopened).1).1
  have hnodes : ∀ n ∈ backDoor.nodes, n.id ≠ "" ∧ n.parent = none := by decide
  refine ⟨by decide, _, _, _, _, _, hopened, ?_, rfl, rfl, ?_, ?_, ?_, rfl, rfl, rfl⟩
  · exact Graph.not_around_self_of_ids hgraph rfl hnodes
  · intro hopen
    have haround := hopen.around _ (List.mem_singleton_self _)
    exact absurd (Graph.ids_of_around hgraph rfl hnodes haround).1 (by decide)
  · intro haround
    exact absurd (Graph.ids_of_around hgraph rfl hnodes haround).1 (by decide)
  · exact ⟨⟨"yard", rfl⟩, "room", .inl ⟨_, List.mem_singleton_self _, rfl⟩, rfl⟩

end Story

end Narrative
