import Narrative.Proofs.Document.Plain
import Narrative.Proofs.Graph.Lookup
import Narrative.Proofs.Outcome
import Narrative.Session.Story

/-!
Graphs that resemble each other. They give the same nodes, but for what is only read, to whatever
a session asks them. So a reader who comes to a node is led on alike by both, and is offered the
same choices but for their texts. The graphs of documents that are the same but for what is only
read resemble each other, and one of them can be made just if the other can.
-/

namespace Narrative

def Position.plain : Position → Position
  | .displaying n => .displaying n.plain
  | .offering n => .offering n.plain
  | .ended => .ended

/-- Positions of one sort, at nodes that are the same but for what is only read. -/
inductive Position.Alike : Position → Position → Prop where
  | displaying {n m : Node} (h : n.plain = m.plain) : Alike (.displaying n) (.displaying m)
  | offering {n m : Node} (h : n.plain = m.plain) : Alike (.offering n) (.offering m)
  | ended : Alike .ended .ended

theorem Position.alike_of_plain_eq {position position' : Position}
    (h : position.plain = position'.plain) : position.Alike position' := by
  cases position with
  | displaying n =>
      cases position' with
      | displaying m => exact .displaying (Position.displaying.inj h)
      | _ => cases h
  | offering n =>
      cases position' with
      | offering m => exact .offering (Position.offering.inj h)
      | _ => cases h
  | ended =>
      cases position' with
      | ended => exact .ended
      | _ => cases h

def Hop.plain : Hop → Hop
  | .on n containers => .on n.plain (containers.map Node.plain)
  | .rest position containers => .rest position.plain (containers.map Node.plain)

/-- Where a hop ends that is followed by what is further on if it leads on. -/
def Hop.follow (further : List Node → Node → Except Fault (Position × List Node)) :
    Hop → Except Fault (Position × List Node)
  | .on n containers => further containers n
  | .rest position containers => .ok (position, containers)

def Choice.plain (c : Choice) : Choice :=
  { c with text := "", target := c.target.plain }

-- Whether a condition holds is never looked into here: nodes that are the same but for what is
-- only read have the same line, so that it is the same computation for both.
attribute [local irreducible] Node.conditionHolds

namespace Graph

/-- Graphs that give the same nodes, but for what is only read, to questions about the same. -/
structure Resembles (g other : Graph) : Prop where
  node? (id : String) : Option.Rel (fun n m => n.plain = m.plain) (g.node? id) (other.node? id)
  firstChild? {n m : Node} : n.plain = m.plain →
    Option.Rel (fun n m => n.plain = m.plain) (g.firstChild? n) (other.firstChild? m)
  parent? (id : String) :
    Option.Rel (fun n m => n.plain = m.plain) (g.parent? id) (other.parent? id)
  nodeCount : g.nodeCount = other.nodeCount
  kindOf {n m : Node} : n.plain = m.plain → g.kindOf n = other.kindOf m

section Hops

variable {g other : Graph} (h : g.Resembles other) {n m : Node} (hn : n.plain = m.plain)

include h hn

theorem Resembles.same_resolve {edge edge' : Edge} (hedge : edge.plain = edge'.plain) :
    Outcome.SameBy Node.plain (g.resolve n edge) (other.resolve m edge') := by
  have htarget : edge.target = edge'.target := by
    change edge.plain.target = edge'.plain.target
    rw [hedge]
  unfold resolve
  rw [htarget]
  have hnode := h.node? edge'.target
  generalize g.node? edge'.target = found, other.node? edge'.target = found' at hnode ⊢
  cases hnode with
  | none => exact congrArg (Fault.danglingEdge · edge'.target) (Node.id_eq_of_plain_eq hn)
  | some hfound => exact hfound

theorem Resembles.same_jumpTarget :
    Outcome.SameBy Node.plain (g.jumpTarget n) (other.jumpTarget m) := by
  unfold jumpTarget
  rw [Node.target_eq_of_plain_eq hn]
  cases m.target.filter fun target => !Text.isBlankText target with
  | some target =>
      change Outcome.SameBy Node.plain (g.resolve n ⟨target, none⟩) (other.resolve m ⟨target, none⟩)
      exact h.same_resolve hn rfl
  | none =>
      have hedges := Node.forall₂_edges_of_plain_eq hn
      have hmissing := congrArg Fault.missingJumpTarget (Node.id_eq_of_plain_eq hn)
      dsimp only
      generalize n.edges = edges, m.edges = edges' at hedges ⊢
      cases hedges with
      | nil => exact hmissing
      | cons hedge hrest =>
          cases hrest with
          | nil => exact h.same_resolve hn hedge
          | cons => exact hmissing

theorem Resembles.same_branchTarget (store : Store) :
    Outcome.SameBy Node.plain (g.branchTarget store n) (other.branchTarget store m) := by
  unfold branchTarget
  rw [Node.conditionHolds_eq_of_plain_eq hn]
  apply Outcome.same_bind_of_eq
  intro holds _
  have hedge := Node.rel_pinEdge_of_plain_eq hn (if holds then 0 else 1)
  generalize (n.outputPins[if holds then 0 else 1]?.bind fun pin => pin.connections.head?) = edge,
    (m.outputPins[if holds then 0 else 1]?.bind fun pin => pin.connections.head?) = edge'
    at hedge ⊢
  cases hedge with
  | none => exact congrArg (Fault.missingConditionBranch · holds) (Node.id_eq_of_plain_eq hn)
  | some hedge => exact h.same_resolve hn hedge

variable {containers containers' : List Node}
  (hcontainers : containers.map Node.plain = containers'.map Node.plain)

include hcontainers

omit h in
theorem isInnermost_eq_of_plain_eq : isInnermost n containers = isInnermost m containers' := by
  cases forall₂_of_map_eq hcontainers with
  | nil => rfl
  | cons htop _ =>
      simp only [isInnermost, Node.id_eq_of_plain_eq htop, Node.id_eq_of_plain_eq hn]

theorem Resembles.same_ownEdges :
    Outcome.SameBy Hop.plain (g.ownEdges containers n) (other.ownEdges containers' m) := by
  have hedges := Node.forall₂_edges_of_plain_eq hn
  unfold ownEdges
  generalize n.edges = edges, m.edges = edges' at hedges ⊢
  cases hedges with
  | nil => exact congrArg (Hop.rest .ended) hcontainers
  | cons hedge hrest =>
      cases hrest with
      | nil =>
          apply Outcome.same_map (h.same_resolve hn hedge)
          intro target target' htarget
          simp only [Hop.plain, htarget, hcontainers]
      | cons => exact congrArg₂ (fun n => Hop.rest (.offering n)) hn hcontainers

theorem Resembles.same_hop (store : Store) :
    Outcome.SameBy Hop.plain (g.hop store containers n) (other.hop store containers' m) := by
  have hon {target target' : Node} (htarget : target.plain = target'.plain) :
      (Hop.on target containers).plain = (Hop.on target' containers').plain :=
    congrArg₂ Hop.on htarget hcontainers
  unfold hop
  rw [h.kindOf hn, isInnermost_eq_of_plain_eq hn hcontainers]
  cases other.kindOf m with
  | instruction => exact congrArg₂ (fun n => Hop.rest (.displaying n)) hn hcontainers
  | dialogue => exact congrArg₂ (fun n => Hop.rest (.displaying n)) hn hcontainers
  | hub => exact congrArg₂ (fun n => Hop.rest (.offering n)) hn hcontainers
  | jump => exact Outcome.same_map (h.same_jumpTarget hn) fun _ _ => hon
  | condition => exact Outcome.same_map (h.same_branchTarget hn store) fun _ _ => hon
  | unknown typeName =>
      exact congrArg (Fault.unknownNodeType · typeName) (Node.id_eq_of_plain_eq hn)
  | container =>
      dsimp only
      split
      · apply h.same_ownEdges hn
        rw [List.map_tail, List.map_tail, hcontainers]
      · have hchild := h.firstChild? hn
        generalize g.firstChild? n = child, other.firstChild? m = child' at hchild ⊢
        cases hchild with
        | none => exact h.same_ownEdges hn hcontainers
        | some hchild =>
            refine congrArg₂ Hop.on hchild ?_
            rw [List.map_cons, List.map_cons, hn, hcontainers]

end Hops

section Rest

theorem settleWithin_zero (g : Graph) (store : Store) (budget : Nat) (containers : List Node)
    (n : Node) :
    g.settleWithin store budget 0 containers n =
      g.hop store containers n >>=
        Hop.follow fun _ _ => .error (.stepBudgetExceeded n.id budget) := by
  unfold settleWithin
  rcases g.hop store containers n with fault | ⟨next, after⟩ | ⟨position, after⟩ <;> rfl

theorem settleWithin_succ (g : Graph) (store : Store) (budget left : Nat) (containers : List Node)
    (n : Node) :
    g.settleWithin store budget (left + 1) containers n =
      g.hop store containers n >>= Hop.follow (g.settleWithin store budget left) := by
  rw [settleWithin]
  rcases g.hop store containers n with fault | ⟨next, after⟩ | ⟨position, after⟩ <;> rfl

theorem same_follow {further further' : List Node → Node → Except Fault (Position × List Node)}
    (hfurther : ∀ {n m}, n.plain = m.plain → ∀ {containers containers'},
      containers.map Node.plain = containers'.map Node.plain →
      Outcome.SameBy (Prod.map Position.plain (List.map Node.plain)) (further containers n)
        (further' containers' m))
    {hop hop' : Hop} (hhop : hop.plain = hop'.plain) :
    Outcome.SameBy (Prod.map Position.plain (List.map Node.plain)) (hop.follow further)
      (hop'.follow further') := by
  cases hop with
  | on next containers =>
      cases hop' with
      | on next' containers' =>
          obtain ⟨hnext, hcontainers⟩ := Hop.on.inj hhop
          exact hfurther hnext hcontainers
      | rest position' containers' => cases hhop
  | rest position containers =>
      cases hop' with
      | on next' containers' => cases hhop
      | rest position' containers' =>
          obtain ⟨hposition, hcontainers⟩ := Hop.rest.inj hhop
          exact congrArg₂ Prod.mk hposition hcontainers

variable {g other : Graph} (h : g.Resembles other)

include h

theorem Resembles.same_settleWithin (store : Store) (budget left : Nat) {n m : Node}
    (hn : n.plain = m.plain) {containers containers' : List Node}
    (hcontainers : containers.map Node.plain = containers'.map Node.plain) :
    Outcome.SameBy (Prod.map Position.plain (List.map Node.plain))
      (g.settleWithin store budget left containers n)
      (other.settleWithin store budget left containers' m) := by
  induction left generalizing n m containers containers' with
  | zero =>
      rw [settleWithin_zero, settleWithin_zero, Node.id_eq_of_plain_eq hn]
      apply Outcome.same_bind (h.same_hop hn hcontainers store)
      intro hop hop' _ _ hhop
      apply same_follow _ hhop
      intro n m _ containers containers' _
      rfl
  | succ left ih =>
      rw [settleWithin_succ, settleWithin_succ]
      apply Outcome.same_bind (h.same_hop hn hcontainers store)
      intro hop hop' _ _ hhop
      exact same_follow ih hhop

theorem Resembles.containersAround_eq (steps : Nat) {n m : Node} (hn : n.plain = m.plain) :
    (g.containersAround steps n).map Node.plain =
      (other.containersAround steps m).map Node.plain := by
  induction steps generalizing n m with
  | zero => rfl
  | succ steps ih =>
      have hparent := h.parent? m.id
      unfold containersAround
      rw [Node.id_eq_of_plain_eq hn]
      generalize g.parent? m.id = parent, other.parent? m.id = parent' at hparent ⊢
      cases hparent with
      | none => rfl
      | some hparent =>
          dsimp only
          rw [h.kindOf hparent]
          split
          · rw [List.map_cons, List.map_cons, hparent, ih hparent]
          · exact ih hparent

theorem Resembles.enclosingContainers_eq {n m : Node} (hn : n.plain = m.plain) :
    (g.enclosingContainers n).map Node.plain = (other.enclosingContainers m).map Node.plain := by
  unfold enclosingContainers
  rw [h.nodeCount]
  exact h.containersAround_eq _ hn

end Rest

section Shown

variable {g other : Graph} (h : g.Resembles other) {n m : Node} (hn : n.plain = m.plain)

theorem admits_eq_of_plain_eq (hn : n.plain = m.plain) (store : Store) :
    admits store n = admits store m := by
  unfold admits
  rw [Node.guardText_eq_of_plain_eq hn, Node.id_eq_of_plain_eq hn]

include h hn

theorem Resembles.same_edgeChoice (store : Store) {edge edge' : Edge}
    (hedge : edge.plain = edge'.plain) (index : Nat) :
    Outcome.SameBy Choice.plain (g.edgeChoice store n edge index)
      (other.edgeChoice store m edge' index) := by
  unfold edgeChoice
  apply Outcome.same_bind (h.same_resolve hn hedge)
  intro target target' _ _ htarget
  rw [admits_eq_of_plain_eq htarget]
  apply Outcome.same_bind_of_eq
  intro enabled _
  change Choice.plain _ = Choice.plain _
  simp only [Choice.plain, Node.guardText_eq_of_plain_eq htarget, htarget]

theorem Resembles.same_branchChoice (line : String) (holds isFirst : Bool) {edge edge' : Edge}
    (hedge : edge.plain = edge'.plain) (index : Nat) :
    Outcome.SameBy Choice.plain (g.branchChoice n line holds (edge, isFirst) index)
      (other.branchChoice m line holds (edge', isFirst) index) := by
  unfold branchChoice
  apply Outcome.same_bind (h.same_resolve hn hedge)
  intro target target' _ _ htarget
  change Choice.plain _ = Choice.plain _
  simp only [Choice.plain, htarget]

theorem Resembles.same_conditionChoices (store : Store) :
    Outcome.SameBy (List.map Choice.plain) (g.conditionChoices store n)
      (other.conditionChoices store m) := by
  have hedges : n.branchEdges.zipIdx.map (Prod.map plainBranch id) =
      m.branchEdges.zipIdx.map (Prod.map plainBranch id) := by
    rw [← List.zipIdx_map, ← List.zipIdx_map, Node.branchEdges_eq_of_plain_eq hn]
  unfold conditionChoices
  rw [Node.conditionHolds_eq_of_plain_eq hn, Node.conditionLine_eq_of_plain_eq hn]
  apply Outcome.same_bind_of_eq
  intro holds _
  apply Outcome.sameBy_mapM hedges
  rintro ⟨⟨edge, isFirst⟩, index⟩ ⟨⟨edge', isFirst'⟩, index'⟩ hitem
  obtain ⟨hbranch, rfl⟩ := Prod.mk.inj hitem
  obtain ⟨hedge, rfl⟩ := Prod.mk.inj hbranch
  exact h.same_branchChoice hn _ holds _ hedge _

theorem Resembles.same_choices (store : Store) :
    Outcome.SameBy (List.map Choice.plain) (g.choices store n) (other.choices store m) := by
  have hedges : n.edges.zipIdx.map (Prod.map Edge.plain id) =
      m.edges.zipIdx.map (Prod.map Edge.plain id) := by
    rw [← List.zipIdx_map, ← List.zipIdx_map, ← Node.edges_plain, hn, Node.edges_plain]
  unfold choices
  rw [h.kindOf hn]
  split
  · exact h.same_conditionChoices hn store
  · apply Outcome.sameBy_mapM hedges
    rintro ⟨edge, index⟩ ⟨edge', index'⟩ hitem
    obtain ⟨hedge, rfl⟩ := Prod.mk.inj hitem
    exact h.same_edgeChoice hn store hedge _

theorem Resembles.offersOnReturn_eq : g.offersOnReturn n = other.offersOnReturn m := by
  rw [offersOnReturn, h.kindOf hn, Node.edgeCount_eq_of_plain_eq hn, offersOnReturn]

end Shown

section Indexing

/-- Whether nodes can be indexed is a matter of their ids alone. -/
theorem same_indexNodes {index index' : Std.TreeMap String Node} {nodes others : List Node}
    (hids : nodes.map Node.id = others.map Node.id)
    (hindex : ∀ id, index.contains id = index'.contains id) :
    Outcome.Same (fun _ _ => True) (indexNodes index nodes) (indexNodes index' others) := by
  induction nodes generalizing index index' others with
  | nil =>
      cases others with
      | nil => trivial
      | cons m others => cases hids
  | cons n nodes ih =>
      cases others with
      | nil => cases hids
      | cons m others =>
          obtain ⟨hid, hrest⟩ := List.cons.inj hids
          unfold indexNodes
          rw [hid, hindex]
          split
          · rfl
          · apply ih hrest
            intro id
            rw [Std.TreeMap.contains_insert, Std.TreeMap.contains_insert, hindex]

variable {document document' : Document} (h : document.plain = document'.plain)

include h

theorem map_plain_nodes_eq : document.nodes.map Node.plain = document'.nodes.map Node.plain := by
  rw [← Document.nodes_plain, h, Document.nodes_plain]

theorem map_id_nodes_eq : document.nodes.map Node.id = document'.nodes.map Node.id := by
  have hids := congrArg (List.map Node.id) (map_plain_nodes_eq h)
  rwa [List.map_map, List.map_map] at hids

theorem rel_node?_of_plain_eq {g other : Graph} (hg : ofDocument document = .ok g)
    (hother : ofDocument document' = .ok other) (id : String) :
    Option.Rel (fun n m => n.plain = m.plain) (g.node? id) (other.node? id) := by
  cases hnode : g.node? id with
  | none =>
      have hnone : id ∉ document.nodes.map Node.id := by
        simpa using (node?_eq_none_iff hg).mp hnode
      rw [map_id_nodes_eq h] at hnone
      rw [(node?_eq_none_iff hother).mpr (by simpa using hnone)]
      exact .none
  | some n =>
      obtain ⟨hmem, rfl⟩ := (node?_eq_some_iff hg).mp hnode
      have hplain : n.plain ∈ document'.nodes.map Node.plain := by
        rw [← map_plain_nodes_eq h]
        exact List.mem_map_of_mem hmem
      obtain ⟨m, hm, hsame⟩ := List.mem_map.mp hplain
      rw [(node?_eq_some_iff hother).mpr ⟨hm, Node.id_eq_of_plain_eq hsame⟩]
      exact .some hsame.symm

theorem resembles_of_plain_eq {g other : Graph} (hg : ofDocument document = .ok g)
    (hother : ofDocument document' = .ok other) : g.Resembles other := by
  have hnode := rel_node?_of_plain_eq h hg hother
  have hentries : g.entryIndex = other.entryIndex := by
    rw [entryIndex_eq hg, entryIndex_eq hother]
    exact congrArg (fun d => indexEntries d.outline.walk) h
  have hparents : g.parentIndex = other.parentIndex := by
    rw [parentIndex_eq hg, parentIndex_eq hother]
    exact congrArg (fun d => indexParents d.outline.walk) h
  have htypes : g.document.types = other.document.types := by
    rw [document_of_ofDocument hg, document_of_ofDocument hother]
    exact congrArg (fun d => d.types) h
  refine ⟨hnode, ?_, ?_, ?_, ?_⟩
  · intro n m hn
    unfold firstChild?
    rw [hentries, Node.id_eq_of_plain_eq hn]
    cases other.entryIndex[m.id]? with
    | none => exact .none
    | some entry => exact rel_findSome? (fun child => hnode child.id) entry.children
  · intro id
    have hparent : Option.Rel (fun n m => n.plain = m.plain)
        (g.parentIndex[id]?.bind g.node?) (other.parentIndex[id]?.bind other.node?) := by
      rw [hparents]
      cases other.parentIndex[id]? with
      | none => exact .none
      | some parent => exact hnode parent
    have hreference : Option.Rel (fun n m => n.plain = m.plain)
        ((g.node? id).bind fun n => n.parent.bind g.node?)
        ((other.node? id).bind fun m => m.parent.bind other.node?) := by
      apply rel_bind (hnode id)
      intro n m hn
      rw [Node.parent_eq_of_plain_eq hn]
      cases m.parent with
      | none => exact .none
      | some parent => exact hnode parent
    unfold parent?
    generalize g.parentIndex[id]?.bind g.node? = found,
      other.parentIndex[id]?.bind other.node? = found' at hparent ⊢
    cases hparent with
    | none => exact hreference
    | some hparent => exact .some hparent
  · rw [nodeCount_eq hg, nodeCount_eq hother]
    simpa using congrArg List.length (map_id_nodes_eq h)
  · intro n m hn
    simp only [kindOf, kindOfType, definitionsOf, htypes, Node.typeName_eq_of_plain_eq hn]

/-- Documents that are the same but for what is only read have graphs that resemble each other, or
the same fault. -/
theorem same_ofDocument_of_plain_eq :
    Outcome.Same Resembles (ofDocument document) (ofDocument document') := by
  have hindexed : Outcome.Same (fun _ _ => True) (indexNodes ∅ document.nodes)
      (indexNodes ∅ document'.nodes) := same_indexNodes (map_id_nodes_eq h) fun _ => rfl
  have hmade : Outcome.Same (fun _ _ => True) (ofDocument document) (ofDocument document') :=
    Outcome.same_bind hindexed fun _ _ _ _ _ => trivial
  apply hmade.mono
  intro g other hg hother _
  exact resembles_of_plain_eq h hg hother

end Indexing

section Start

variable {g other : Graph} {marker : String}

theorem same_findStart
    (h : (g.startCandidates marker).map Node.plain = (other.startCandidates marker).map Node.plain)
    (strict : Bool) :
    Outcome.SameBy Node.plain (g.findStart marker strict) (other.findStart marker strict) := by
  have hids : (g.startCandidates marker).map Node.id =
      (other.startCandidates marker).map Node.id := by
    have hids := congrArg (List.map Node.id) h
    rwa [List.map_map, List.map_map] at hids
  unfold findStart
  generalize g.startCandidates marker = candidates, other.startCandidates marker = candidates'
    at h hids ⊢
  cases forall₂_of_map_eq h with
  | nil => rfl
  | cons hfirst hothers =>
      cases hothers with
      | nil => exact hfirst
      | cons =>
          dsimp only
          split
          · exact congrArg (Fault.multipleStartNodes marker) hids
          · exact hfirst

end Start

end Graph

end Narrative
