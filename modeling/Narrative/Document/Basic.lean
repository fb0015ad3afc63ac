import Narrative.Document.Node
import Narrative.Document.Outline
import Narrative.Variables.Store

/-!
Documents. A document is a whole narrative as its authoring tool exports it: the
declared variables, the nodes in their packages, the types that authors have
defined on top of the known ones, and the containment outline. It never changes
while it is read.
-/

namespace Narrative

/-- A package of nodes. Node ids are to be unique over all packages. -/
structure Package where
  name : String
  nodes : List Node := []
deriving DecidableEq

/-- A node type that authors have defined: its class, and the one type that it
is derived from. -/
structure TypeDefinition where
  name : String
  className : String := ""
  derivedFrom : Option String := none
deriving DecidableEq

/-- A narrative in the form in which it is stored. -/
structure Document where
  namespaces : List Namespace := []
  packages : List Package := []
  types : List TypeDefinition := []
  outline : Outline := default

namespace Document

/-- Every node, in package order and then in node order. -/
def nodes (d : Document) : List Node :=
  d.packages.flatMap Package.nodes

def nodeCount (d : Document) : Nat :=
  d.packages.foldr (fun package count => package.nodes.length + count) 0

theorem length_nodes (d : Document) : d.nodes.length = d.nodeCount := by
  unfold nodes nodeCount
  induction d.packages with
  | nil => rfl
  | cons package packages ih => rw [List.flatMap_cons, List.length_append, ih, List.foldr_cons]

def addNamespace (d : Document) (n : Namespace) : Document :=
  { d with namespaces := d.namespaces ++ [n] }

def addPackage (d : Document) (package : Package) : Document :=
  { d with packages := d.packages ++ [package] }

def addType (d : Document) (definition : TypeDefinition) : Document :=
  { d with types := d.types ++ [definition] }

end Document

end Narrative
