import Narrative.Script.Statement
import Narrative.Variables.Store

/-!
Guards. A guard is one or more conditions joined by `&&` or by `||`; where both
occur the text is cut at `&&` only. Whatever its operator, a condition asks
whether a variable has a value, and a variable that is not bound has none. All
conditions are read before any is tested, so a faulty one is always reported.
-/

namespace Narrative.Script

inductive Connective where
  | all
  | any
deriving DecidableEq

/-- The parts of a guard and how they are joined. -/
def guardParts (text : List Char) : Connective × List (List Char) :=
  if Text.occursIn "&&".toList text then (.all, Text.splitDoubled '&' text)
  else if Text.occursIn "||".toList text then (.any, Text.splitDoubled '|' text)
  else (.all, [text])

/-- The statement on the first line of a part that says something. -/
def conditionOf (part : List Char) : Except LineError (Option Statement) :=
  match firstMeaningfulLine? part with
  | some line => Statement.ofLine line
  | none => .ok none

/-- The statements of the parts that have one, in order. -/
def conditions : List (List Char) → Except LineError (List Statement)
  | [] => .ok []
  | part :: parts => do
    let condition? ← conditionOf part
    let others ← conditions parts
    return condition?.toList ++ others

/-- Whether the variable of a statement has the statement's value. -/
def Statement.holdsIn (store : Store) (s : Statement) : Bool :=
  match store.get? s.path with
  | some current => current.looselyEqual s.value
  | none => false

/-- Whether joined conditions hold; no conditions at all hold either way. -/
def Connective.holds (connective : Connective) (conditions : List Statement) (store : Store) :
    Bool :=
  match connective, conditions with
  | _, [] => true
  | .all, conditions => conditions.all (Statement.holdsIn store)
  | .any, conditions => conditions.any (Statement.holdsIn store)

def guardHolds (text : String) (store : Store) : Except LineError Bool := do
  let (connective, parts) := guardParts text.toList
  let conditions ← conditions parts
  return connective.holds conditions store

theorem guardHolds_empty (store : Store) : guardHolds "" store = .ok true := by
  rfl

end Narrative.Script
