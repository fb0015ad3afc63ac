/-!
The kinds of node: the closed set of behaviours that a session knows. A document
names types freely; a type without a known behaviour has the unknown kind, which
keeps its name for the diagnosis.
-/

namespace Narrative

inductive Kind where
  /-- Changes variables on entry and is shown. -/
  | instruction
  /-- A line of dialogue: shown until the reader goes on. -/
  | dialogue
  /-- A branching point: offers its edges. -/
  | hub
  /-- Never shown: leads to another node. -/
  | jump
  /-- Holds other nodes: entered at its first child, left by its own edges. -/
  | container
  /-- Never shown: takes one of two branches. -/
  | condition
  | unknown (name : String)
deriving DecidableEq

namespace Kind

def ofTypeName? (name : String) : Option Kind :=
  if name = "Instruction" then some .instruction
  else if name = "DialogueFragment" ∨ name = "DialogueInteractiveFragment" then some .dialogue
  else if name = "Hub" then some .hub
  else if name = "Jump" then some .jump
  else if name = "FlowFragment" ∨ name = "Dialogue" then some .container
  else if name = "Condition" then some .condition
  else none

/-- The name of a kind; an unknown one has the name of its type. -/
def name : Kind → String
  | .instruction => "Instruction"
  | .dialogue => "DialogueFragment"
  | .hub => "Hub"
  | .jump => "Jump"
  | .container => "FlowFragment"
  | .condition => "Condition"
  | .unknown name => name

/-- Whether a node of this kind is passed on entry without ever being shown. -/
def isAutomatic : Kind → Bool
  | .jump | .container | .condition => true
  | _ => false

def isDisplayed : Kind → Bool
  | .instruction | .dialogue => true
  | _ => false

def isUnknown : Kind → Bool
  | .unknown _ => true
  | _ => false

theorem not_automatic_of_isDisplayed {kind : Kind} (h : kind.isDisplayed = true) :
    kind.isAutomatic = false := by
  cases kind <;> simp_all [isDisplayed, isAutomatic]

end Kind

end Narrative
