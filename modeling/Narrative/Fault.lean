import Narrative.Script.Statement

/-!
Faults: what can be wrong with a document. A fault names the node where it was
found. Misuse by the reader, such as choosing what is not on offer, is no fault.
-/

namespace Narrative

/-- An inconsistency of a document. -/
inductive Fault where
  | duplicateNodeId (id : String)
  /-- An edge or a jump leads to no node. -/
  | danglingEdge (source target : String)
  /-- A node has not as many edges as it needs. -/
  | edgeCount (node : String) (expected found : Nat)
  /-- A condition has no edge for the branch to be taken. -/
  | missingConditionBranch (node : String) (branch : Bool)
  /-- A jump has neither a target nor a single edge. -/
  | missingJumpTarget (node : String)
  | noStartNode (marker : String)
  | multipleStartNodes (marker : String) (ids : List String)
  /-- Nothing was found to show within the allowed number of automatic steps. -/
  | stepBudgetExceeded (node : String) (budget : Nat)
  | unknownNodeType (node typeName : String)
  /-- A line of a node's script is no statement. -/
  | expression (node : String) (cause : Script.LineError)
deriving DecidableEq

def branchName (branch : Bool) : String :=
  if branch then "true" else "false"

def Fault.message : Fault → String
  | .duplicateNodeId id => s!"Node id '{id}' is used more than once"
  | .danglingEdge source target => s!"Node '{source}' links to '{target}', which does not exist"
  | .edgeCount node expected found =>
    s!"Node '{node}' needs {expected} outgoing edge(s) but has {found}"
  | .missingConditionBranch node branch =>
    s!"Condition '{node}' has no edge for the {branchName branch} branch"
  | .missingJumpTarget node => s!"Jump '{node}' has neither a target nor a single outgoing edge"
  | .noStartNode marker => s!"No node carries the start marker '{marker}'"
  | .multipleStartNodes marker ids =>
    s!"Start marker '{marker}' found on several nodes: " ++ ", ".intercalate ids
  | .stepBudgetExceeded node budget =>
    s!"Gave up at '{node}' after {budget} automatic steps; the flow probably loops"
  | .unknownNodeType node typeName => s!"Node '{node}' has unsupported type '{typeName}'"
  | .expression node cause => s!"Malformed expression on node '{node}': " ++ cause.message

/-- The fault that a line error on a node is. -/
def Fault.ofScript {α : Type} (node : String) : Except Script.LineError α → Except Fault α
  | .ok a => .ok a
  | .error cause => .error (.expression node cause)

theorem Fault.ofScript_eq_ok_iff {α : Type} {node : String} {reading : Except Script.LineError α}
    {a : α} : Fault.ofScript node reading = .ok a ↔ reading = .ok a := by
  cases reading <;> simp [Fault.ofScript]

theorem Fault.ofScript_eq_error_iff {α : Type} {node : String}
    {reading : Except Script.LineError α} {fault : Fault} :
    Fault.ofScript node reading = .error fault ↔
      ∃ cause, reading = .error cause ∧ fault = .expression node cause := by
  cases reading <;> simp [Fault.ofScript, eq_comm]

end Narrative
