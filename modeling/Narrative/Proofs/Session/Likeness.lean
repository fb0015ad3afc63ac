import Narrative.Session.Story

/-!
What a session asks of its graph. It asks for the node of an id, for first children, for
parents, for kinds and for the number of nodes, and nothing else. Two stories whose graphs
give the same answers take the same steps, whatever documents they were made from.
-/

namespace Narrative

namespace Graph

/-- Graphs that answer alike whatever a session asks. -/
structure Alike (g other : Graph) : Prop where
  node? : g.node? = other.node?
  firstChild? : g.firstChild? = other.firstChild?
  parent? : g.parent? = other.parent?
  nodeCount : g.nodeCount = other.nodeCount
  kindOf : g.kindOf = other.kindOf

section Alike

variable {g other : Graph} (h : g.Alike other)

include h

theorem Alike.resolve_eq (source : Node) (edge : Edge) :
    g.resolve source edge = other.resolve source edge := by
  simp only [resolve, h.node?]

theorem Alike.jumpTarget_eq (n : Node) : g.jumpTarget n = other.jumpTarget n := by
  simp only [jumpTarget, h.node?, h.resolve_eq]

theorem Alike.branchTarget_eq (store : Store) (n : Node) :
    g.branchTarget store n = other.branchTarget store n := by
  simp only [branchTarget, h.resolve_eq]

theorem Alike.ownEdges_eq (containers : List Node) (n : Node) :
    g.ownEdges containers n = other.ownEdges containers n := by
  simp only [ownEdges, h.resolve_eq]

theorem Alike.hop_eq (store : Store) (containers : List Node) (n : Node) :
    g.hop store containers n = other.hop store containers n := by
  simp only [hop, h.kindOf, h.firstChild?, h.jumpTarget_eq, h.branchTarget_eq, h.ownEdges_eq]

theorem Alike.settleWithin_eq (store : Store) (budget left : Nat) (containers : List Node)
    (n : Node) :
    g.settleWithin store budget left containers n =
      other.settleWithin store budget left containers n := by
  induction left generalizing containers n with
  | zero => simp only [settleWithin, h.hop_eq]
  | succ left ih => simp only [settleWithin, h.hop_eq, ih]

theorem Alike.containersAround_eq (steps : Nat) (n : Node) :
    g.containersAround steps n = other.containersAround steps n := by
  induction steps generalizing n with
  | zero => rfl
  | succ steps ih => simp only [containersAround, h.parent?, h.kindOf, ih]

theorem Alike.choices_eq (store : Store) (n : Node) :
    g.choices store n = other.choices store n := by
  simp only [choices, conditionChoices, branchChoice, edgeChoice, h.kindOf, h.resolve_eq]

theorem Alike.render_eq (p : Progress) : g.render p = other.render p := by
  simp only [render, h.kindOf, h.choices_eq]

theorem Alike.offersOnReturn_eq (n : Node) : g.offersOnReturn n = other.offersOnReturn n := by
  rw [offersOnReturn, h.kindOf, offersOnReturn]

theorem Alike.rewind_eq (p : Progress) : g.rewind p = other.rewind p := by
  unfold rewind
  cases p.route.checkpoints with
  | nil => rfl
  | cons checkpoint checkpoints => simp only [h.offersOnReturn_eq]

end Alike

end Graph

namespace Story

/-- Stories with the same start and settings whose graphs answer alike. -/
structure Alike (story other : Story) : Prop where
  graph : story.graph.Alike other.graph
  settings : story.settings = other.settings
  start : story.start = other.start

section Alike

variable {story other : Story} (h : story.Alike other)

include h

theorem Alike.enter_eq (p : Progress) (n : Node) : story.enter p n = other.enter p n := by
  simp only [enter, Graph.settle, h.graph.settleWithin_eq, h.graph.kindOf, h.settings]

theorem Alike.reenter_eq (p : Progress) (n : Node) : story.reenter p n = other.reenter p n := by
  simp only [reenter, Graph.enclosingContainers, h.graph.containersAround_eq, h.graph.nodeCount,
    h.enter_eq]

theorem Alike.advanceFrom_eq (p : Progress) (n : Node) :
    story.advanceFrom p n = other.advanceFrom p n := by
  simp only [advanceFrom, h.graph.kindOf, h.graph.resolve_eq, h.enter_eq]

theorem Alike.choose_eq (p : Progress) (offering target : Node) (text : String) :
    story.choose p offering target text = other.choose p offering target text := by
  simp only [choose, h.graph.kindOf, h.graph.resolve_eq, h.enter_eq]

theorem Alike.shown_eq (p : Progress) : story.shown p = other.shown p := by
  simp only [shown, h.graph.render_eq]

theorem Alike.step_eq (s : Session) (t : Trigger) : story.step s t = other.step s t := by
  have hshown : story.shown = other.shown := funext h.shown_eq
  cases t with
  | advance => simp only [step, h.advanceFrom_eq, hshown]
  | select index => simp only [step, h.choose_eq, hshown]
  | back => simp only [step, h.graph.rewind_eq, hshown]
  | jump id => simp only [step, h.graph.node?, h.reenter_eq, hshown]
  | restart => simp only [step, h.start, h.reenter_eq, hshown]

/-- Stories that are alike and declare the same variables are opened alike. -/
theorem Alike.opening_eq
    (hdeclared : story.graph.document.namespaces = other.graph.document.namespaces) :
    story.opening = other.opening := by
  have hshown : story.shown = other.shown := funext h.shown_eq
  simp only [opening, hdeclared, h.start, h.reenter_eq, hshown]

/-- Stories that are alike answer every reader alike. -/
theorem Alike.run_eq (s : Session) (triggers : List Trigger) :
    story.run s triggers = other.run s triggers := by
  induction triggers generalizing s with
  | nil => rfl
  | cons t triggers ih => simp only [run, fire, h.step_eq, ih]

end Alike

end Story

end Narrative
