import Narrative.Document.Kind
import Narrative.Document.Node

/-!
What a reader is shown: a node with its text, a node with the choices it offers,
or the end.
-/

namespace Narrative

structure Content where
  node : Node
  title : String
  body : String
  speaker : Option String
  stageDirections : Option String
  color : Option String
  /-- Whether going on leads anywhere. -/
  hasNext : Bool
deriving DecidableEq

/-- One of the edges on offer, with the guard that enables it or does not. -/
structure Choice where
  index : Nat
  text : String
  enabled : Bool
  /-- The guard as it is shown beside the choice; empty if there is none. -/
  guardText : String
  target : Node
deriving DecidableEq

structure Offer where
  node : Node
  title : String
  body : String
  choices : List Choice
deriving DecidableEq

def Offer.enabledIndices (o : Offer) : List Nat :=
  (o.choices.filter Choice.enabled).map Choice.index

inductive Display where
  | content (c : Content)
  | choices (o : Offer)
  | ended
deriving DecidableEq

def Display.node? : Display → Option Node
  | .content c => some c.node
  | .choices o => some o.node
  | .ended => none

def Display.isEnd : Display → Bool
  | .ended => true
  | _ => false

namespace Node

/-- The body of a node: the first of text, expression and display name that is not
blank. A hub has none. -/
def body (n : Node) (kind : Kind) : String :=
  if kind = .hub then ""
  else
    (([n.text, n.expression, n.displayName].find? fun field => !Text.isBlankText field)).getD ""

/-- What stands for a node in one line: its body, or else its display name. -/
def summary (n : Node) (kind : Kind) : String :=
  if (n.body kind).isEmpty then n.displayName else n.body kind

/-- The text of a choice that leads to a node over an edge: the edge's label unless
it is blank, and otherwise what stands for the node. -/
def choiceText (target : Node) (kind : Kind) (edge : Option Edge) : String :=
  match edge.bind Edge.label with
  | some label => if Text.isBlankText label then target.summary kind else label
  | none => target.summary kind

end Node

end Narrative
