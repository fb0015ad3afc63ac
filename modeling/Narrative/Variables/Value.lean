import Narrative.Number.Shortest

/-!
Scalar values of variables. Two values are compared after the texts `true` and
`false` have been read as truth values, so a variable that was written as a
quoted word still answers a condition on its truth.
-/

namespace Narrative

inductive Value where
  | bool (b : Bool)
  | number (x : Binary64)
  | text (s : String)
deriving DecidableEq

namespace Value

/-- The value with the words `true` and `false` read as truth values. -/
def normalized : Value → Value
  | .text s => if s = "true" then .bool true else if s = "false" then .bool false else .text s
  | v => v

def equal : Value → Value → Bool
  | .bool a, .bool b => a == b
  | .number x, .number y => x.equal y
  | .text s, .text t => s == t
  | _, _ => false

def looselyEqual (a b : Value) : Bool :=
  a.normalized.equal b.normalized

def asBool? (v : Value) : Option Bool :=
  match v.normalized with
  | .bool b => some b
  | _ => none

def asNumber? : Value → Option Binary64
  | .number x => some x
  | _ => none

def asText? : Value → Option String
  | .text s => some s
  | _ => none

/-- From this magnitude on an integer is written by its shortest decimal. -/
def integerLimit : Nat := 10 ^ 15

/-- The text of a number: an integer below the limit has its digits and no sign
on zero, and any other number has its shortest positional decimal. -/
def numberText (x : Binary64) : String :=
  match x.toInt? with
  | some n => if n.natAbs < integerLimit then toString n else x.shortestText
  | none => x.shortestText

def display : Value → String
  | .bool b => if b then "true" else "false"
  | .number x => numberText x
  | .text s => s

theorem normalized_normalized (v : Value) : v.normalized.normalized = v.normalized := by
  cases v with
  | text s => unfold normalized; grind
  | _ => rfl

theorem looselyEqual_normalized_left (a b : Value) :
    a.normalized.looselyEqual b = a.looselyEqual b := by
  simp [looselyEqual, normalized_normalized]

theorem looselyEqual_normalized_right (a b : Value) :
    a.looselyEqual b.normalized = a.looselyEqual b := by
  simp [looselyEqual, normalized_normalized]

end Value

end Narrative
