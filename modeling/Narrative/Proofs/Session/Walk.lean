import Narrative.Proofs.Session.Preview
import Narrative.Proofs.Session.Rest
import Narrative.Proofs.Session.Transaction

/-!
Walks of automatic hops. Where a reader is led who comes to a node depends on the kind of the node
and on whether it is the innermost open container. The rules are given here as relations, with one
constructor for each rule. Main statement: a reader who comes to a node takes the walk that these
rules describe, and is cut off at the first hop beyond the budget.
-/

namespace Narrative

/-- Whether a node names a target. A blank one counts as none. -/
def Node.HasTarget (n : Node) (id : String) : Prop :=
  n.target = some id ∧ Text.isBlankText id = false

namespace Graph

section Rules

/-- A container that a reader leaves, with the containers that are open then: the innermost open
one is closed, and one without a first child is not opened in the first place. -/
inductive Leaves (g : Graph) : List Node × Node → List Node → Prop where
  | closed {containers : List Node} {n : Node} (hkind : g.kindOf n = .container)
      (hopen : isInnermost n containers = true) : Leaves g (containers, n) containers.tail
  | childless {containers : List Node} {n : Node} (hkind : g.kindOf n = .container)
      (hopen : isInnermost n containers = false) (hchild : g.firstChild? n = none) :
      Leaves g (containers, n) containers

/-- The id that a node points a reader to who comes to it, with the containers that are open then.
A jump points to its target, or else over its only edge, a condition over the first edge of its
branch, and a container that is left over its only edge. -/
inductive PointsTo (g : Graph) (store : Store) : List Node × Node → List Node × String → Prop where
  | target {containers : List Node} {n : Node} {id : String} (hkind : g.kindOf n = .jump)
      (htarget : n.HasTarget id) : PointsTo g store (containers, n) (containers, id)
  | onlyEdge {containers : List Node} {n : Node} {edge : Edge} (hkind : g.kindOf n = .jump)
      (htarget : ∀ id, ¬ n.HasTarget id) (hedges : n.edges = [edge]) :
      PointsTo g store (containers, n) (containers, edge.target)
  | branch {containers : List Node} {n : Node} {holds : Bool} {edge : Edge}
      (hkind : g.kindOf n = .condition)
      (hholds : Script.guardHolds (String.ofList n.conditionLine) store = .ok holds)
      (hedge : (n.branch holds).head? = some edge) :
      PointsTo g store (containers, n) (containers, edge.target)
  | leaving {containers after : List Node} {n : Node} {edge : Edge}
      (hleaves : g.Leaves (containers, n) after) (hedges : n.edges = [edge]) :
      PointsTo g store (containers, n) (after, edge.target)

/-- An automatic hop: to the node that is pointed to, or into a container that is not the innermost
open one and has a first child. -/
inductive GoesOn (g : Graph) (store : Store) : List Node × Node → List Node × Node → Prop where
  | pointed {here : List Node × Node} {after : List Node} {id : String} {next : Node}
      (hpoints : g.PointsTo store here (after, id)) (hnext : g.node? id = some next) :
      GoesOn g store here (after, next)
  | descending {containers : List Node} {n child : Node} (hkind : g.kindOf n = .container)
      (hopen : isInnermost n containers = false) (hchild : g.firstChild? n = some child) :
      GoesOn g store (containers, n) (n :: containers, child)

/-- Where a reader comes to rest, and the containers that are open there. A container that is left
without an edge is the end, and one that is left with several edges offers them. -/
inductive RestsAt (g : Graph) : List Node × Node → Position × List Node → Prop where
  | instruction {containers : List Node} {n : Node} (hkind : g.kindOf n = .instruction) :
      RestsAt g (containers, n) (.displaying n, containers)
  | dialogue {containers : List Node} {n : Node} (hkind : g.kindOf n = .dialogue) :
      RestsAt g (containers, n) (.displaying n, containers)
  | hub {containers : List Node} {n : Node} (hkind : g.kindOf n = .hub) :
      RestsAt g (containers, n) (.offering n, containers)
  | ended {containers after : List Node} {n : Node} (hleaves : g.Leaves (containers, n) after)
      (hedges : n.edges = []) : RestsAt g (containers, n) (.ended, after)
  | offering {containers after : List Node} {n : Node} (hleaves : g.Leaves (containers, n) after)
      (hedges : 1 < n.edgeCount) : RestsAt g (containers, n) (.offering n, after)

/-- The fault of a node at which a reader can neither go on nor rest. -/
inductive FailsWith (g : Graph) (store : Store) : List Node × Node → Fault → Prop where
  | dangling {containers after : List Node} {n : Node} {id : String}
      (hpoints : g.PointsTo store (containers, n) (after, id)) (hnone : g.node? id = none) :
      FailsWith g store (containers, n) (.danglingEdge n.id id)
  | aimless {containers : List Node} {n : Node} (hkind : g.kindOf n = .jump)
      (htarget : ∀ id, ¬ n.HasTarget id) (hedges : n.edgeCount ≠ 1) :
      FailsWith g store (containers, n) (.missingJumpTarget n.id)
  | misread {containers : List Node} {n : Node} {cause : Script.LineError}
      (hkind : g.kindOf n = .condition)
      (hholds : Script.guardHolds (String.ofList n.conditionLine) store = .error cause) :
      FailsWith g store (containers, n) (.expression n.id cause)
  | branchless {containers : List Node} {n : Node} {holds : Bool}
      (hkind : g.kindOf n = .condition)
      (hholds : Script.guardHolds (String.ofList n.conditionLine) store = .ok holds)
      (hedges : n.branch holds = []) :
      FailsWith g store (containers, n) (.missingConditionBranch n.id holds)
  | unknown {containers : List Node} {n : Node} {typeName : String}
      (hkind : g.kindOf n = .unknown typeName) :
      FailsWith g store (containers, n) (.unknownNodeType n.id typeName)

/-- What the rules say of a reader who comes to a node: going on, resting or a fault. -/
def Becomes (g : Graph) (store : Store) (here : List Node × Node) : Except Fault Hop → Prop
  | .ok (.on next after) => g.GoesOn store here (after, next)
  | .ok (.rest position after) => g.RestsAt here (position, after)
  | .error fault => g.FailsWith store here fault

end Rules

section Hops

variable {g : Graph} {store : Store} {n : Node} {containers after : List Node} {id : String}

theorem target_filter_eq_some_iff :
    (n.target.filter fun target => !Text.isBlankText target) = some id ↔ n.HasTarget id := by
  simp [Node.HasTarget, Option.filter_eq_some_iff]

theorem target_filter_eq_none_iff :
    (n.target.filter fun target => !Text.isBlankText target) = none ↔ ∀ id, ¬ n.HasTarget id := by
  simp only [← target_filter_eq_some_iff, Option.eq_none_iff_forall_ne_some, ne_eq]

/-- A container that is left goes by its own edges. -/
theorem hop_of_leaves (h : g.Leaves (containers, n) after) :
    g.hop store containers n = g.ownEdges after n := by
  cases h with
  | closed hkind hopen => simp [hop, hkind, hopen]
  | childless hkind hopen hchild => simp [hop, hkind, hopen, hchild]

/-- A node that points to an id leads to the node of that id. -/
theorem hop_of_pointsTo (h : g.PointsTo store (containers, n) (after, id)) :
    g.hop store containers n =
      (g.resolve n { target := id }).map fun next => .on next after := by
  cases h with
  | target hkind htarget =>
      simp only [hop, hkind, jumpTarget, target_filter_eq_some_iff.mpr htarget]
      rfl
  | onlyEdge hkind htarget hedges =>
      simp only [hop, hkind, jumpTarget, target_filter_eq_none_iff.mpr htarget, hedges]
      rfl
  | @branch _ _ holds _ hkind hholds hedge =>
      have hverdict : Fault.ofScript n.id _ = .ok holds := Fault.ofScript_eq_ok_iff.mpr hholds
      simp only [hop, hkind, branchTarget_eq, Node.conditionHolds, hverdict, bind, Except.bind,
        hedge]
      rfl
  | leaving hleaves hedges =>
      rw [hop_of_leaves hleaves]
      simp only [ownEdges, hedges]
      rfl

theorem hop_of_goesOn {next : Node} (h : g.GoesOn store (containers, n) (after, next)) :
    g.hop store containers n = .ok (.on next after) := by
  cases h with
  | pointed hpoints hnext =>
      rw [hop_of_pointsTo hpoints, resolve, hnext]
      rfl
  | descending hkind hopen hchild => simp [hop, hkind, hopen, hchild]

theorem hop_of_restsAt {position : Position} (h : g.RestsAt (containers, n) (position, after)) :
    g.hop store containers n = .ok (.rest position after) := by
  cases h with
  | instruction hkind => simp only [hop, hkind]
  | dialogue hkind => simp only [hop, hkind]
  | hub hkind => simp only [hop, hkind]
  | ended hleaves hedges => rw [hop_of_leaves hleaves, ownEdges, hedges]
  | offering hleaves hedges =>
      rw [hop_of_leaves hleaves, ownEdges]
      split
      · rename_i hnone
        simp [Node.edgeCount, hnone] at hedges
      · rename_i edge hone
        simp [Node.edgeCount, hone] at hedges
      · rfl

theorem hop_of_failsWith {fault : Fault} (h : g.FailsWith store (containers, n) fault) :
    g.hop store containers n = .error fault := by
  cases h with
  | dangling hpoints hnone =>
      rw [hop_of_pointsTo hpoints, resolve, hnone]
      rfl
  | aimless hkind htarget hedges =>
      simp only [hop, hkind, jumpTarget, target_filter_eq_none_iff.mpr htarget]
      split
      · rename_i edge hone
        simp [Node.edgeCount, hone] at hedges
      · rfl
  | misread hkind hholds =>
      simp only [hop, hkind, branchTarget_eq, Node.conditionHolds, hholds]
      rfl
  | @branchless _ _ holds hkind hholds hedges =>
      have hverdict : Fault.ofScript n.id _ = .ok holds := Fault.ofScript_eq_ok_iff.mpr hholds
      simp only [hop, hkind, branchTarget_eq, Node.conditionHolds, hverdict, bind, Except.bind,
        hedges]
      rfl
  | unknown hkind => simp only [hop, hkind]

theorem hop_of_becomes {result : Except Fault Hop}
    (h : g.Becomes store (containers, n) result) : g.hop store containers n = result := by
  match result, h with
  | .ok (.on next after), h => exact hop_of_goesOn h
  | .ok (.rest position after), h => exact hop_of_restsAt h
  | .error fault, h => exact hop_of_failsWith h

theorem exists_becomes_of_pointsTo (h : g.PointsTo store (containers, n) (after, id)) :
    ∃ result, g.Becomes store (containers, n) result := by
  cases hnext : g.node? id with
  | none => exact ⟨.error _, .dangling h hnext⟩
  | some next => exact ⟨.ok (.on next after), .pointed h hnext⟩

theorem exists_becomes_of_leaves (h : g.Leaves (containers, n) after) :
    ∃ result, g.Becomes store (containers, n) result := by
  match hedges : n.edges with
  | [] => exact ⟨.ok (.rest .ended after), .ended h hedges⟩
  | [edge] => exact exists_becomes_of_pointsTo (.leaving h hedges)
  | _ :: _ :: _ =>
      exact ⟨.ok (.rest (.offering n) after), .offering h (by simp [Node.edgeCount, hedges])⟩

/-- The rules say something of every node, with any containers open. -/
theorem exists_becomes (g : Graph) (store : Store) (containers : List Node) (n : Node) :
    ∃ result, g.Becomes store (containers, n) result := by
  cases hkind : g.kindOf n with
  | instruction => exact ⟨.ok (.rest (.displaying n) containers), .instruction hkind⟩
  | dialogue => exact ⟨.ok (.rest (.displaying n) containers), .dialogue hkind⟩
  | hub => exact ⟨.ok (.rest (.offering n) containers), .hub hkind⟩
  | jump =>
      by_cases htarget : ∃ id, n.HasTarget id
      · obtain ⟨id, hid⟩ := htarget
        exact exists_becomes_of_pointsTo (.target hkind hid)
      · have hnone : ∀ id, ¬ n.HasTarget id := fun id hid => htarget ⟨id, hid⟩
        by_cases hone : n.edgeCount = 1
        · obtain ⟨edge, hedges⟩ := List.length_eq_one_iff.mp hone
          exact exists_becomes_of_pointsTo (.onlyEdge hkind hnone hedges)
        · exact ⟨.error (.missingJumpTarget n.id), .aimless hkind hnone hone⟩
  | condition =>
      cases hholds : Script.guardHolds (String.ofList n.conditionLine) store with
      | error cause => exact ⟨.error (.expression n.id cause), .misread hkind hholds⟩
      | ok holds =>
          cases hedges : n.branch holds with
          | nil =>
              exact ⟨.error (.missingConditionBranch n.id holds), .branchless hkind hholds hedges⟩
          | cons edge others =>
              exact exists_becomes_of_pointsTo (.branch hkind hholds (by rw [hedges]; rfl))
  | container =>
      cases hopen : isInnermost n containers with
      | true => exact exists_becomes_of_leaves (.closed hkind hopen)
      | false =>
          cases hchild : g.firstChild? n with
          | none => exact exists_becomes_of_leaves (.childless hkind hopen hchild)
          | some child =>
              exact ⟨.ok (.on child (n :: containers)), .descending hkind hopen hchild⟩
  | unknown typeName => exact ⟨.error (.unknownNodeType n.id typeName), .unknown hkind⟩

/-- What becomes of a reader who comes to a node is what the rules say, and nothing else. -/
theorem hop_eq_iff {result : Except Fault Hop} :
    g.hop store containers n = result ↔ g.Becomes store (containers, n) result := by
  constructor
  · rintro rfl
    obtain ⟨result, h⟩ := g.exists_becomes store containers n
    rw [hop_of_becomes h]
    exact h
  · exact hop_of_becomes

theorem hopsTo_eq_goesOn (g : Graph) (store : Store) : g.HopsTo store = g.GoesOn store := by
  funext here there
  exact propext hop_eq_iff

end Hops

section Bound

variable {g : Graph} {store : Store} {containers : List Node} {n : Node}
  {start here : List Node × Node} {hops budget : Nat}

/-- A walk uses up as many of the hops that are left as it takes. -/
theorem settleWithin_of_steps (h : Steps (g.GoesOn store) hops start here) (left : Nat) :
    g.settleWithin store budget (left + hops) start.1 start.2 =
      g.settleWithin store budget left here.1 here.2 := by
  induction h with
  | none here => rfl
  | @first start next here hops step _ ih =>
      have hhop : g.hop store start.1 start.2 = .ok (.on next.2 next.1) := hop_of_goesOn step
      rw [← ih, ← Nat.add_assoc]
      simp only [settleWithin, hhop]

theorem settle_of_steps (h : Steps (g.GoesOn store) hops (containers, n) here)
    (hle : hops ≤ budget) :
    g.settle store budget containers n =
      g.settleWithin store budget (budget - hops) here.1 here.2 := by
  rw [← settleWithin_of_steps h, Nat.sub_add_cancel hle]
  rfl

/-- A reader comes to rest just if the walk ends in a place to rest and takes no more hops than the
budget allows. -/
theorem settle_eq_ok_iff {rest : Position × List Node} :
    g.settle store budget containers n = .ok rest ↔
      ∃ hops ≤ budget, ∃ here, Steps (g.GoesOn store) hops (containers, n) here ∧
        g.RestsAt here rest := by
  constructor
  · intro h
    obtain ⟨hops, here, hle, hwalk, hend⟩ :=
      settleWithin_cases g store budget budget containers n
    rw [hopsTo_eq_goesOn] at hwalk
    rcases hend with ⟨position, after, hhop, hrest⟩ | ⟨fault, -, hstop⟩ | ⟨-, there, -, hstop⟩
    · cases hrest.symm.trans h
      exact ⟨hops, hle, here, hwalk, hop_eq_iff.mp hhop⟩
    · cases hstop.symm.trans h
    · cases hstop.symm.trans h
  · rintro ⟨hops, hle, here, hwalk, hrest⟩
    have hhop : g.hop store here.1 here.2 = .ok (.rest rest.1 rest.2) := hop_of_restsAt hrest
    rw [settle_of_steps hwalk hle]
    cases budget - hops <;> simp only [settleWithin, hhop]

/-- A reader is cut off just if the walk goes on after as many hops as the budget allows; any other
fault is that of the last node of a walk within the budget. -/
theorem settle_eq_error_iff {fault : Fault} :
    g.settle store budget containers n = .error fault ↔
      (∃ here there, Steps (g.GoesOn store) budget (containers, n) here ∧
        g.GoesOn store here there ∧ fault = .stepBudgetExceeded here.2.id budget) ∨
      ∃ hops ≤ budget, ∃ here, Steps (g.GoesOn store) hops (containers, n) here ∧
        g.FailsWith store here fault := by
  constructor
  · intro h
    obtain ⟨hops, here, hle, hwalk, hend⟩ :=
      settleWithin_cases g store budget budget containers n
    rw [hopsTo_eq_goesOn] at hwalk
    rcases hend with ⟨position, after, -, hrest⟩ | ⟨fault, hhop, hstop⟩ | ⟨rfl, there, hhop, hstop⟩
    · cases hrest.symm.trans h
    · cases hstop.symm.trans h
      exact .inr ⟨hops, hle, here, hwalk, hop_eq_iff.mp hhop⟩
    · cases hstop.symm.trans h
      exact .inl ⟨here, there, hwalk, hop_eq_iff.mp hhop, rfl⟩
  · rintro (⟨here, there, hwalk, hgoes, rfl⟩ | ⟨hops, hle, here, hwalk, hfails⟩)
    · have hhop : g.hop store here.1 here.2 = .ok (.on there.2 there.1) := hop_of_goesOn hgoes
      rw [settle_of_steps hwalk (Nat.le_refl budget), Nat.sub_self]
      simp only [settleWithin, hhop]
    · have hhop : g.hop store here.1 here.2 = .error fault := hop_of_failsWith hfails
      rw [settle_of_steps hwalk hle]
      cases budget - hops <;> simp only [settleWithin, hhop]

end Bound

section Arrival

/-- What is done to the variables where a reader comes to rest: a shown instruction makes its
assignments, and nothing else changes them. -/
inductive Performs (g : Graph) (store : Store) : Position → Store → Prop where
  | assigned {n : Node} {assigned : Scope} (hkind : g.kindOf n = .instruction)
      (hread : Script.assignments n.expression = .ok assigned) :
      Performs g store (.displaying n) (store.assign assigned)
  | nothing {position : Position}
      (hposition : ∀ n, position = .displaying n → g.kindOf n ≠ .instruction) :
      Performs g store position store

/-- Whether a position shows an instruction of which a line cannot be read. -/
def Misperforms (g : Graph) (position : Position) (fault : Fault) : Prop :=
  ∃ n cause, position = .displaying n ∧ g.kindOf n = .instruction ∧
    Script.assignments n.expression = .error cause ∧ fault = .expression n.id cause

variable {g : Graph} {p q : Progress} {position : Position} {containers : List Node} {fault : Fault}

theorem arrive_of_not_instruction
    (h : ∀ n, position = .displaying n → g.kindOf n ≠ .instruction) :
    g.arrive p (position, containers) =
      .ok { p with route := { p.route with position, containers } } := by
  cases position with
  | displaying n => exact if_neg (h n rfl)
  | offering n => rfl
  | ended => rfl

theorem arrive_of_instruction {n : Node} (hkind : g.kindOf n = .instruction) :
    g.arrive p (.displaying n, containers) =
      (Fault.ofScript n.id (Script.assignments n.expression)).map fun assigned =>
        { store := p.store.assign assigned,
          route := { p.route with position := .displaying n, containers } } :=
  if_pos hkind

theorem arrive_eq_ok_iff :
    g.arrive p (position, containers) = .ok q ↔
      ∃ store, g.Performs p.store position store ∧
        q = { store, route := { p.route with position, containers } } := by
  by_cases hinstruction : ∃ n, position = .displaying n ∧ g.kindOf n = .instruction
  · obtain ⟨n, rfl, hkind⟩ := hinstruction
    simp only [arrive_of_instruction hkind, Outcome.map_eq_ok_iff, Fault.ofScript_eq_ok_iff]
    constructor
    · rintro ⟨assigned, hread, rfl⟩
      exact ⟨_, .assigned hkind hread, rfl⟩
    · rintro ⟨store, hperforms, rfl⟩
      cases hperforms with
      | assigned _ hread => exact ⟨_, hread, rfl⟩
      | nothing hposition => exact absurd hkind (hposition n rfl)
  · have hnone : ∀ n, position = .displaying n → g.kindOf n ≠ .instruction :=
      fun n hn hkind => hinstruction ⟨n, hn, hkind⟩
    rw [arrive_of_not_instruction hnone, Except.ok.injEq]
    constructor
    · rintro rfl
      exact ⟨p.store, .nothing hnone, rfl⟩
    · rintro ⟨store, hperforms, rfl⟩
      cases hperforms with
      | assigned hkind _ => exact absurd hkind (hnone _ rfl)
      | nothing _ => rfl

theorem arrive_eq_error_iff :
    g.arrive p (position, containers) = .error fault ↔ g.Misperforms position fault := by
  by_cases hinstruction : ∃ n, position = .displaying n ∧ g.kindOf n = .instruction
  · obtain ⟨n, rfl, hkind⟩ := hinstruction
    simp [arrive_of_instruction hkind, Outcome.map_eq_error_iff, Fault.ofScript_eq_error_iff,
      Misperforms, hkind]
  · have hnone : ∀ n, position = .displaying n → g.kindOf n ≠ .instruction :=
      fun n hn hkind => hinstruction ⟨n, hn, hkind⟩
    rw [arrive_of_not_instruction hnone]
    constructor
    · intro h
      cases h
    · rintro ⟨n, -, hn, hkind, -⟩
      exact absurd hkind (hnone n hn)

theorem FailsWith.ne_stepBudgetExceeded {store : Store} {here : List Node × Node}
    (h : g.FailsWith store here fault) (node : String) (budget : Nat) :
    fault ≠ .stepBudgetExceeded node budget := by
  cases h <;> simp

theorem Misperforms.ne_stepBudgetExceeded (h : g.Misperforms position fault) (node : String)
    (budget : Nat) : fault ≠ .stepBudgetExceeded node budget := by
  obtain ⟨n, cause, -, -, -, rfl⟩ := h
  simp

end Arrival

end Graph

namespace Story

/-- The walk of a reader who comes to a node: so many hops lead there. -/
def Walk (story : Story) (s : Session) (n : Node) (hops : Nat) (here : List Node × Node) : Prop :=
  Steps (story.graph.GoesOn s.progress.store) hops (s.progress.route.containers, n) here

variable {story : Story} {s : Session} {n : Node} {fault : Fault}

/-- There is only one walk: no two places are as many hops away. -/
theorem Walk.unique {hops : Nat} {here there : List Node × Node} (hhere : story.Walk s n hops here)
    (hthere : story.Walk s n hops there) : here = there := by
  unfold Walk at hhere hthere
  generalize (s.progress.route.containers, n) = start at hhere hthere
  induction hhere with
  | none here =>
      cases hthere
      rfl
  | first step _ ih =>
      cases hthere with
      | first other rest =>
          have heq := (Graph.hop_of_goesOn step).symm.trans (Graph.hop_of_goesOn other)
          simp only [Except.ok.injEq, Hop.on.injEq] at heq
          rw [Prod.ext heq.2 heq.1] at ih
          exact ih rest

/-- Coming to a node is settling from it and arriving where that ends. -/
theorem enter_eq_settle_bind (story : Story) (p : Progress) (n : Node) :
    story.enter p n =
      story.graph.settle p.store story.settings.maxAutoSteps p.route.containers n >>=
        story.graph.arrive p := rfl

theorem enter_eq_ok_iff {q : Progress} :
    story.enter s.progress n = .ok q ↔
      ∃ hops ≤ story.settings.maxAutoSteps, ∃ here position containers store,
        story.Walk s n hops here ∧ story.graph.RestsAt here (position, containers) ∧
        story.graph.Performs s.progress.store position store ∧
        q = { store, route := { s.progress.route with position, containers } } := by
  rw [enter_eq_settle_bind, Outcome.bind_eq_ok_iff]
  constructor
  · rintro ⟨⟨position, containers⟩, hsettle, harrive⟩
    obtain ⟨hops, hle, here, hwalk, hrest⟩ :=
      Graph.settle_eq_ok_iff.mp hsettle
    obtain ⟨store, hperforms, rfl⟩ := Graph.arrive_eq_ok_iff.mp harrive
    exact ⟨hops, hle, here, position, containers, store, hwalk, hrest, hperforms, rfl⟩
  · rintro ⟨hops, hle, here, position, containers, store, hwalk, hrest, hperforms, rfl⟩
    exact ⟨(position, containers), Graph.settle_eq_ok_iff.mpr ⟨hops, hle, here, hwalk, hrest⟩,
      Graph.arrive_eq_ok_iff.mpr ⟨store, hperforms, rfl⟩⟩

theorem enter_eq_error_iff :
    story.enter s.progress n = .error fault ↔
      (∃ here there, story.Walk s n story.settings.maxAutoSteps here ∧
        story.graph.GoesOn s.progress.store here there ∧
        fault = .stepBudgetExceeded here.2.id story.settings.maxAutoSteps) ∨
      ∃ hops ≤ story.settings.maxAutoSteps, ∃ here, story.Walk s n hops here ∧
        (story.graph.FailsWith s.progress.store here fault ∨
          ∃ position containers, story.graph.RestsAt here (position, containers) ∧
            story.graph.Misperforms position fault) := by
  rw [enter_eq_settle_bind, Outcome.bind_eq_error_iff]
  constructor
  · rintro (hsettle | ⟨⟨position, containers⟩, hsettle, harrive⟩)
    · obtain hcut | ⟨hops, hle, here, hwalk, hfails⟩ :=
        Graph.settle_eq_error_iff.mp hsettle
      · exact .inl hcut
      · exact .inr ⟨hops, hle, here, hwalk, .inl hfails⟩
    · obtain ⟨hops, hle, here, hwalk, hrest⟩ :=
        Graph.settle_eq_ok_iff.mp hsettle
      have hmis := Graph.arrive_eq_error_iff.mp harrive
      exact .inr ⟨hops, hle, here, hwalk, .inr ⟨position, containers, hrest, hmis⟩⟩
  · rintro (hcut | ⟨hops, hle, here, hwalk, hfails | ⟨position, containers, hrest, hmis⟩⟩)
    · exact .inl (Graph.settle_eq_error_iff.mpr (.inl hcut))
    · exact .inl (Graph.settle_eq_error_iff.mpr (.inr ⟨hops, hle, here, hwalk, hfails⟩))
    · exact .inr ⟨(position, containers),
        Graph.settle_eq_ok_iff.mpr ⟨hops, hle, here, hwalk, hrest⟩,
        Graph.arrive_eq_error_iff.mpr hmis⟩

/-- Only the budget cuts a reader off. -/
theorem enter_eq_stepBudgetExceeded_iff {node : String} {budget : Nat} :
    story.enter s.progress n = .error (.stepBudgetExceeded node budget) ↔
      budget = story.settings.maxAutoSteps ∧ ∃ here there, story.Walk s n budget here ∧
        story.graph.GoesOn s.progress.store here there ∧ node = here.2.id := by
  rw [enter_eq_error_iff]
  constructor
  · rintro (⟨here, there, hwalk, hgoes, hfault⟩ | ⟨_, -, _, -, hfails | ⟨_, _, -, hmis⟩⟩)
    · cases hfault
      exact ⟨rfl, here, there, hwalk, hgoes, rfl⟩
    · exact absurd rfl (hfails.ne_stepBudgetExceeded node budget)
    · exact absurd rfl (hmis.ne_stepBudgetExceeded node budget)
  · rintro ⟨rfl, here, there, hwalk, hgoes, rfl⟩
    exact .inl ⟨here, there, hwalk, hgoes, rfl⟩

/-- Coming to a node in place is a walk, and there is only one. It ends well just if it rests
within the budget and a shown instruction can be read; it is cut off at the last node of a walk of
as many hops as the budget allows that goes on; and any other fault is that of the node at which
the walk ends within the budget, or of the instruction at which it rests. -/
theorem run_enter_iff_walk (story : Story) (s : Session) (n : Node) :
    (∀ hops here there, story.Walk s n hops here → story.Walk s n hops there → here = there) ∧
    (∀ after, (Work.enter story n).run s = .ok () after ↔
      ∃ hops ≤ story.settings.maxAutoSteps, ∃ here position containers store,
        story.Walk s n hops here ∧ story.graph.RestsAt here (position, containers) ∧
        story.graph.Performs s.progress.store position store ∧
        after = { s with
          progress := { store, route := { s.progress.route with position, containers } } }) ∧
    (∀ node budget,
      (∃ after, (Work.enter story n).run s = .error (.stepBudgetExceeded node budget) after) ↔
        budget = story.settings.maxAutoSteps ∧ ∃ here there, story.Walk s n budget here ∧
          story.graph.GoesOn s.progress.store here there ∧ node = here.2.id) ∧
    ∀ fault, (∃ after, (Work.enter story n).run s = .error fault after) ↔
      (∃ here there, story.Walk s n story.settings.maxAutoSteps here ∧
        story.graph.GoesOn s.progress.store here there ∧
        fault = .stepBudgetExceeded here.2.id story.settings.maxAutoSteps) ∨
      ∃ hops ≤ story.settings.maxAutoSteps, ∃ here, story.Walk s n hops here ∧
        (story.graph.FailsWith s.progress.store here fault ∨
          ∃ position containers, story.graph.RestsAt here (position, containers) ∧
            story.graph.Misperforms position fault) := by
  have hmeets := Work.meets_enter story n s
  refine ⟨fun _ _ _ => Walk.unique, fun after => ?_, fun node budget => ?_, fun fault => ?_⟩
  · rw [hmeets.eq_ok_iff]
    constructor
    · rintro ⟨p, henter, rfl⟩
      obtain ⟨hops, hle, here, position, containers, store, hwalk, hrest, hperforms, rfl⟩ :=
        enter_eq_ok_iff.mp henter
      exact ⟨hops, hle, here, position, containers, store, hwalk, hrest, hperforms, rfl⟩
    · rintro ⟨hops, hle, here, position, containers, store, hwalk, hrest, hperforms, rfl⟩
      exact ⟨_, enter_eq_ok_iff.mpr
        ⟨hops, hle, here, position, containers, store, hwalk, hrest, hperforms, rfl⟩, rfl⟩
  · rw [hmeets.exists_eq_error_iff, enter_eq_stepBudgetExceeded_iff]
  · rw [hmeets.exists_eq_error_iff, enter_eq_error_iff]

end Story

end Narrative
