import Narrative.Document.Kind
import Narrative.Graph.Index

/-!
Kinds of nodes. A type name that is known settles the kind; any other goes by
its definitions in the document, one step up and no further.
-/

namespace Narrative.Graph

def definitionsOf (g : Graph) (typeName : String) : List TypeDefinition :=
  g.document.types.filter fun definition => definition.name = typeName

/-- Whether a type is another one, has it as its class or is derived from it. -/
def isDerivedFrom (g : Graph) (typeName ancestor : String) : Bool :=
  typeName = ancestor || (g.definitionsOf typeName).any fun definition =>
    definition.className = ancestor || definition.derivedFrom = some ancestor

/-- The kind that a definition gives to its type, the class before the origin. -/
def kindOfDefinition? (definition : TypeDefinition) : Option Kind :=
  (Kind.ofTypeName? definition.className).or (definition.derivedFrom.bind Kind.ofTypeName?)

/-- The kind of the nodes of a type: its own, or else that of its first
definition that gives one. -/
def kindOfType (g : Graph) (typeName : String) : Kind :=
  match Kind.ofTypeName? typeName with
  | some kind => kind
  | none => ((g.definitionsOf typeName).findSome? kindOfDefinition?).getD (.unknown typeName)

def kindOf (g : Graph) (n : Node) : Kind :=
  g.kindOfType n.typeName

end Narrative.Graph
