import Narrative.Number.Binary64

/-!
Values of the data format in which documents are stored. Objects list their
members in the order of the text, repeated names included, because a record
with a repeated member is refused. A value that is well formed but stands for
nothing is kept as such: it does no harm under a name that nobody asks for.
-/

namespace Narrative

/-- A value. Whole numbers in the range of 64-bit words are kept exactly; all
other numbers are binary64. The last form stands for half of a surrogate pair, a
number beyond the largest one, and nesting that is too deep. -/
inductive Json where
  | null
  | bool (b : Bool)
  | int (n : Int)
  | real (x : Binary64)
  | text (s : String)
  | array (items : List Json)
  | object (members : List (String × Json))
  | unusable

namespace Json

/-- The number that a value is, rounded to binary64 if it is a whole number. -/
def asNumber? : Json → Option Binary64
  | .int n => some (.ofInt n)
  | .real x => some x
  | _ => none

def asText? : Json → Option String
  | .text s => some s
  | _ => none

/-- The values that every item of an array is read to. -/
def asList? {α : Type} (item? : Json → Option α) : Json → Option (List α)
  | .array items => items.mapM item?
  | _ => none

mutual

/-- The value with only the last of several members of one name in each object. -/
def lastMembers : Json → Json
  | .array items => .array (lastMembersOfItems items)
  | .object members => .object (lastMembersOf members)
  | other => other

/-- The items with only the last members in each. -/
def lastMembersOfItems : List Json → List Json
  | [] => []
  | item :: items => item.lastMembers :: lastMembersOfItems items

/-- The members whose name does not come again. -/
def lastMembersOf : List (String × Json) → List (String × Json)
  | [] => []
  | (name, member) :: members =>
    let others := lastMembersOf members
    if others.any (·.1 == name) then others else (name, member.lastMembers) :: others

end

end Json

end Narrative
