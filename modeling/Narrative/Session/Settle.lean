import Narrative.Session.Choices
import Narrative.Session.Route

/-!
Settling. A reader who comes to a node that is never shown is led on from it, by
one automatic hop after another, until a node can be shown or offers its edges,
or the narrative ends. The number of hops is bounded.
-/

namespace Narrative

/-- What a node does with a reader who comes to it: it leads on to another node,
or is where the reader comes to rest; and the containers that are open then. -/
inductive Hop where
  | on (n : Node) (containers : List Node)
  | rest (position : Position) (containers : List Node)
deriving DecidableEq

namespace Graph

/-- The node that a jump leads to: its target if it names one, or else that of its
only edge. -/
def jumpTarget (g : Graph) (n : Node) : Except Fault Node :=
  match n.target.filter fun target => !Text.isBlankText target with
  | some target =>
    match g.node? target with
    | some node => .ok node
    | none => .error (.danglingEdge n.id target)
  | none =>
    match n.edges with
    | [edge] => g.resolve n edge
    | _ => .error (.missingJumpTarget n.id)

/-- The node that a condition leads to: that of the first edge of its first output
pin if its line holds, and of its second one otherwise. -/
def branchTarget (g : Graph) (store : Store) (n : Node) : Except Fault Node := do
  let holds ← n.conditionHolds store
  match n.outputPins[if holds then 0 else 1]?.bind fun pin => pin.connections.head? with
  | some edge => g.resolve n edge
  | none => .error (.missingConditionBranch n.id holds)

/-- Where the edges of a node itself lead: to the end if there are none, on if
there is one, and to an offer if there are several. -/
def ownEdges (g : Graph) (containers : List Node) (n : Node) : Except Fault Hop :=
  match n.edges with
  | [] => .ok (.rest .ended containers)
  | [edge] => (g.resolve n edge).map fun target => .on target containers
  | _ => .ok (.rest (.offering n) containers)

/-- What happens to a reader who comes to a node with the given containers open.
A container that is the innermost open one is being left; any other is entered
at its first child, if it has one. -/
def hop (g : Graph) (store : Store) (containers : List Node) (n : Node) : Except Fault Hop :=
  match g.kindOf n with
  | .instruction => .ok (.rest (.displaying n) containers)
  | .dialogue => .ok (.rest (.displaying n) containers)
  | .hub => .ok (.rest (.offering n) containers)
  | .jump => (g.jumpTarget n).map fun target => .on target containers
  | .condition => (g.branchTarget store n).map fun target => .on target containers
  | .container =>
    if isInnermost n containers then g.ownEdges containers.tail n
    else
      match g.firstChild? n with
      | some child => .ok (.on child (n :: containers))
      | none => g.ownEdges containers n
  | .unknown typeName => .error (.unknownNodeType n.id typeName)

/-- Hop on until the reader comes to rest, within the hops that are left of the
budget. A hop beyond it is a fault, even one that would have been the last. -/
def settleWithin (g : Graph) (store : Store) (budget : Nat) :
    Nat → List Node → Node → Except Fault (Position × List Node)
  | 0, containers, n =>
    match g.hop store containers n with
    | .error fault => .error fault
    | .ok (.rest position containers) => .ok (position, containers)
    | .ok (.on _ _) => .error (.stepBudgetExceeded n.id budget)
  | left + 1, containers, n =>
    match g.hop store containers n with
    | .error fault => .error fault
    | .ok (.rest position containers) => .ok (position, containers)
    | .ok (.on next containers) => settleWithin g store budget left containers next

/-- Where a reader who comes to a node comes to rest, and the containers that are
open there. -/
def settle (g : Graph) (store : Store) (budget : Nat) (containers : List Node) (n : Node) :
    Except Fault (Position × List Node) :=
  g.settleWithin store budget budget containers n

/-- The containers around a node, innermost first, found by so many steps upwards. -/
def containersAround (g : Graph) : Nat → Node → List Node
  | 0, _ => []
  | steps + 1, n =>
    match g.parent? n.id with
    | none => []
    | some parent =>
      if g.kindOf parent = .container then parent :: containersAround g steps parent
      else containersAround g steps parent

/-- The containers around a node, innermost first. As many steps are taken as there
are nodes, which is enough unless the parents go round in a circle. -/
def enclosingContainers (g : Graph) (n : Node) : List Node :=
  g.containersAround g.nodeCount n

end Graph

end Narrative
