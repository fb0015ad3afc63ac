import Narrative.Text.Blank
import Narrative.Text.Split

/-!
Nodes, the units of a narrative, and the pins and edges that join them. A node
is entered through its input pins, whose first one may carry a guard, and left
through the edges of its output pins, in pin order and then in connection order.
-/

namespace Narrative

/-- A link to the node with the target's id, with a text of its own if labelled. -/
structure Edge where
  target : String
  label : Option String := none
deriving DecidableEq

/-- A point where edges are attached. The text of a first input pin is a guard;
that of an output pin has no meaning here. -/
structure Pin where
  text : Option String := none
  connections : List Edge := []
deriving DecidableEq

/-- One unit of a narrative. The target matters to jumps only. -/
structure Node where
  id : String
  typeName : String
  displayName : String := ""
  text : String := ""
  expression : String := ""
  speaker : Option String := none
  color : Option String := none
  parent : Option String := none
  target : Option String := none
  stageDirections : Option String := none
  inputPins : List Pin := []
  outputPins : List Pin := []
deriving DecidableEq

namespace Node

/-- Every outgoing edge, in pin order and then in connection order. -/
def edges (n : Node) : List Edge :=
  n.outputPins.flatMap Pin.connections

def edgeCount (n : Node) : Nat :=
  n.edges.length

/-- The guard of the first input pin without its terminating semicolons; empty
if there is none. -/
def guardText (n : Node) : String :=
  match n.inputPins.head? with
  | some { text := some guard, .. } => String.ofList (Text.withoutTerminator guard.toList)
  | _ => ""

def mentions (n : Node) (token : String) : Bool :=
  Text.occursIn token.toList n.text.toList || Text.occursIn token.toList n.expression.toList

/-- The node with this guard on its first input pin, which is made if needed. -/
def guarded (n : Node) (guard : String) : Node :=
  match n.inputPins with
  | [] => { n with inputPins := [{ text := some guard }] }
  | first :: others => { n with inputPins := { first with text := some guard } :: others }

/-- The node with one more edge on its first output pin, which is made if needed. -/
def connected (n : Node) (target : String) : Node :=
  match n.outputPins with
  | [] => { n with outputPins := [{ connections := [{ target }] }] }
  | first :: others =>
    { n with
      outputPins := { first with connections := first.connections ++ [{ target }] } :: others }

def addOutputPin (n : Node) (pin : Pin) : Node :=
  { n with outputPins := n.outputPins ++ [pin] }

theorem edgeCount_connected (n : Node) (target : String) :
    (n.connected target).edgeCount = n.edgeCount + 1 := by
  unfold connected edgeCount edges
  cases n.outputPins with
  | nil => rfl
  | cons first others =>
      simp only [List.flatMap_cons, List.length_append, List.length_cons, List.length_nil]
      omega

end Node

end Narrative
