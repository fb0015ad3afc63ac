import Narrative.Variables.Scope

/-!
The store of a session: the variables as they stand, and as they were declared.
-/

namespace Narrative

structure Declaration where
  name : String
  initial : Value
deriving DecidableEq

structure Namespace where
  name : String
  declarations : List Declaration
deriving DecidableEq

namespace Namespace

def named (name : String) : Namespace := ⟨name, []⟩

def declare (n : Namespace) (name : String) (initial : Value) : Namespace :=
  { n with declarations := n.declarations ++ [⟨name, initial⟩] }

/-- A scope with the variables of a namespace bound to their first values. -/
def bindIn (scope : Scope) (n : Namespace) : Scope :=
  n.declarations.foldl (fun scope d => scope.set [n.name, d.name] d.initial) scope

end Namespace

/-- Variables as they stand and as they were declared. -/
structure Store where
  current : Scope
  initial : Scope
deriving DecidableEq

namespace Store

def empty : Store := ⟨.empty, .empty⟩

/-- The variables of the given namespaces, each with its first value. A variable
that is declared again has the value of the last declaration. -/
def ofNamespaces (namespaces : List Namespace) : Store :=
  let declared := namespaces.foldl Namespace.bindIn .empty
  ⟨declared, declared⟩

def get? (s : Store) (path : List String) : Option Value := s.current.get? path

/-- Overlay the present values with assignments. -/
def assign (s : Store) (assignments : Scope) : Store :=
  { s with current := s.current.merge assignments }

/-- Put the present values back to what they once were. -/
def restore (s : Store) (snapshot : Scope) : Store :=
  { s with current := snapshot }

def reset (s : Store) : Store :=
  { s with current := s.initial }

@[simp] theorem initial_assign (s : Store) (assignments : Scope) :
    (s.assign assignments).initial = s.initial := rfl

@[simp] theorem initial_restore (s : Store) (snapshot : Scope) :
    (s.restore snapshot).initial = s.initial := rfl

@[simp] theorem restore_current (s : Store) : s.restore s.current = s := rfl

@[simp] theorem reset_ofNamespaces (namespaces : List Namespace) :
    (ofNamespaces namespaces).reset = ofNamespaces namespaces := rfl

end Store

end Narrative
