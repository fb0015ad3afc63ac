import Narrative.Graph.Index
import Narrative.Text.LowerCase

/-!
Finding nodes by what is written on them: the start of a narrative by its
marker, and any node by a query in which case does not matter.
-/

namespace Narrative.Graph

def startCandidates (g : Graph) (marker : String) : List Node :=
  g.document.nodes.filter fun n => n.mentions marker

/-- The node at which a narrative starts. Without any candidate there is none;
of several the first one is taken, unless they are to be refused. -/
def findStart (g : Graph) (marker : String) (strict : Bool) : Except Fault Node :=
  match g.startCandidates marker with
  | [] => .error (.noStartNode marker)
  | [only] => .ok only
  | first :: others =>
    if strict then .error (.multipleStartNodes marker ((first :: others).map Node.id))
    else .ok first

/-- Whether a lower-case text occurs in a node's name, text or expression once
these are in lower case too. -/
def matchesLower (needle : List Char) (n : Node) : Bool :=
  [n.displayName, n.text, n.expression].any fun field =>
    Text.occursIn needle (Text.lower field.toList)

/-- Every node in which a query occurs, whatever the case of either; none for a
blank query. -/
def search (g : Graph) (query : String) : List Node :=
  match Text.lower (Text.trim query.toList) with
  | [] => []
  | needle => g.document.nodes.filter (matchesLower needle)

theorem mem_startCandidates_of_findStart {g : Graph} {marker : String} {strict : Bool}
    {start : Node} (h : g.findStart marker strict = .ok start) :
    start ∈ g.startCandidates marker := by
  unfold findStart at h
  split at h
  · cases h
  · rename_i only heq
    cases h
    simp [heq]
  · rename_i first others _ heq
    split at h
    · cases h
    · cases h
      simp [heq]

end Narrative.Graph
