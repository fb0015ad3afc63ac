import Narrative.Script.Statement
import Narrative.Variables.Scope

/-!
Assignments. The statements of a text, whatever their operators, are gathered
into one scope that is then merged into the variables; a later line overrides an
earlier one. A text with a line that is no statement assigns nothing at all.
-/

namespace Narrative.Script

/-- The assignments of some lines on top of those gathered so far. -/
def assignmentsFrom (gathered : Scope) : List (List Char) → Except LineError Scope
  | [] => .ok gathered
  | line :: lines => do
    match ← Statement.ofLine line with
    | none => assignmentsFrom gathered lines
    | some s => assignmentsFrom (gathered.merge (Scope.empty.set s.path s.value)) lines

def assignments (text : String) : Except LineError Scope :=
  assignmentsFrom .empty (Text.lines text.toList)

end Narrative.Script
