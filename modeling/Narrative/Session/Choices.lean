import Narrative.Graph.Kind
import Narrative.Script.Guard
import Narrative.Session.Display

/-!
The choices that a node offers. An ordinary node offers every edge, enabled if
the guard of its target is empty or holds. A condition offers the edges of its
first two output pins, and its own line decides which pin's edges are enabled.
-/

namespace Narrative

/-- The line of a condition: the first of its expression that says something. -/
def Node.conditionLine (n : Node) : List Char :=
  (Script.firstMeaningfulLine? n.expression.toList).getD []

def Node.conditionHolds (n : Node) (store : Store) : Except Fault Bool :=
  Fault.ofScript n.id (Script.guardHolds (String.ofList n.conditionLine) store)

/-- The edges of the first two output pins, each with whether it is the first pin's. -/
def Node.branchEdges (n : Node) : List (Edge × Bool) :=
  match n.outputPins with
  | [] => []
  | [first] => first.connections.map fun edge => (edge, true)
  | first :: second :: _ =>
    first.connections.map (fun edge => (edge, true)) ++
      second.connections.map fun edge => (edge, false)

namespace Graph

/-- Whether the guard of a node lets the reader in. -/
def admits (store : Store) (n : Node) : Except Fault Bool :=
  if n.guardText.isEmpty then .ok true
  else Fault.ofScript n.id (Script.guardHolds n.guardText store)

def edgeChoice (g : Graph) (store : Store) (n : Node) (edge : Edge) (index : Nat) :
    Except Fault Choice := do
  let target ← g.resolve n edge
  let enabled ← admits store target
  return { index, text := target.choiceText (g.kindOf target) (some edge), enabled,
           guardText := target.guardText, target }

/-- The choice of a condition's edge, given the line and whether it holds. The
second pin shows the line negated. -/
def branchChoice (g : Graph) (n : Node) (line : String) (holds : Bool) (edge : Edge × Bool)
    (index : Nat) : Except Fault Choice := do
  let (edge, isFirst) := edge
  let target ← g.resolve n edge
  return { index, text := target.choiceText (g.kindOf target) (some edge),
           enabled := holds == isFirst,
           guardText := if isFirst then line else "!(" ++ line ++ ")", target }

def conditionChoices (g : Graph) (store : Store) (n : Node) : Except Fault (List Choice) := do
  let holds ← n.conditionHolds store
  let line := String.ofList (Text.withoutTerminator n.conditionLine)
  n.branchEdges.zipIdx.mapM fun (edge, index) => g.branchChoice n line holds edge index

def choices (g : Graph) (store : Store) (n : Node) : Except Fault (List Choice) :=
  if g.kindOf n = .condition then g.conditionChoices store n
  else n.edges.zipIdx.mapM fun (edge, index) => g.edgeChoice store n edge index

end Graph

end Narrative
