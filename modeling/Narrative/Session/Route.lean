import Narrative.Document.Node
import Narrative.Variables.Scope

/-!
Routes: where a reader stands and how they came there. A route has a position,
the nodes moved past, the containers that are open around the reader, and the
checkpoints to which the reader can go back.
-/

namespace Narrative

/-- Where a reader stands. -/
inductive Position where
  /-- A node is shown and waits for the reader to go on. -/
  | displaying (n : Node)
  /-- The edges of a node are on offer. -/
  | offering (n : Node)
  /-- There is nothing further to show. -/
  | ended
deriving DecidableEq

namespace Position

def node? : Position → Option Node
  | .displaying n => some n
  | .offering n => some n
  | .ended => none

def name : Position → String
  | .displaying _ => "displaying"
  | .offering _ => "offering"
  | .ended => "end"

end Position

/-- A point to which a reader can go back: the node that was left, with what is
needed to stand there again. -/
structure Checkpoint where
  /-- The node that was shown or that offered its edges. -/
  node : Node
  /-- What the reader chose, or the text of the node that was left. -/
  text : String
  /-- The variables when the node was left. -/
  snapshot : Scope
  /-- The number of nodes moved past before this one. -/
  depth : Nat
  /-- The containers that were open, innermost first. -/
  containers : List Node
  /-- Whether the reader chose among several edges. -/
  isChoice : Bool
  /-- The chosen node, if it was passed by without being shown. -/
  skipped : Option Node
deriving DecidableEq

structure Route where
  position : Position := .ended
  /-- The nodes moved past, oldest first. -/
  history : List Node := []
  /-- The open containers, innermost first. -/
  containers : List Node := []
  /-- The points to go back to, newest first. -/
  checkpoints : List Checkpoint := []
deriving DecidableEq

instance : Inhabited Route := ⟨{}⟩

/-- Whether a node is the innermost of the open containers. -/
def isInnermost (n : Node) : List Node → Bool
  | [] => false
  | top :: _ => top.id = n.id

namespace Route

def enterContainer (r : Route) (n : Node) : Route :=
  { r with containers := n :: r.containers }

def leaveContainer (r : Route) : Route :=
  { r with containers := r.containers.tail }

def pass (r : Route) (n : Node) : Route :=
  { r with history := r.history ++ [n] }

def standAt (r : Route) (position : Position) : Route :=
  { r with position }

def isOpen (r : Route) (n : Node) : Bool :=
  isInnermost n r.containers

@[simp] theorem leaveContainer_enterContainer (r : Route) (n : Node) :
    (r.enterContainer n).leaveContainer = r := rfl

theorem isOpen_enterContainer (r : Route) (n : Node) : (r.enterContainer n).isOpen n = true := by
  simp [isOpen, enterContainer, isInnermost]

end Route

end Narrative
