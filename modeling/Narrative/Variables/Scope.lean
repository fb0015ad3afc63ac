import Narrative.Variables.Bindings

/-!
Scopes: the tree of variables. The first name of a path is the namespace, the
last one the variable, and every name between them an inner scope. A scope's
bindings are always in listing order, so scopes with equal contents are equal.
-/

namespace Narrative

/-- A tree of variables: bindings in listing order at every level. -/
structure Scope where
  bindings : Bindings
  sorted : bindings.Sorted
deriving DecidableEq

namespace Scope

def empty : Scope := ⟨.nil, trivial⟩

instance : Inhabited Scope := ⟨empty⟩

/-- Whether nothing is bound, not even an inner scope. -/
def isEmpty (s : Scope) : Bool := s.bindings.isEmpty

def get? (s : Scope) (path : List String) : Option Value := s.bindings.get? path

def scope? (s : Scope) (name : String) : Option Scope :=
  match h : s.bindings.find? name with
  | some (.scope inner) => some ⟨inner, Bindings.entrySorted_of_find? s.sorted h⟩
  | _ => none

/-- Bind the value at the end of a path, opening scopes on the way. The empty
path binds nothing. -/
def set (s : Scope) (path : List String) (v : Value) : Scope :=
  ⟨s.bindings.set path v, Bindings.sorted_set path v s.sorted⟩

/-- Overlay a scope with another one: only what the other one binds changes. -/
def merge (s incoming : Scope) : Scope :=
  ⟨s.bindings.merge incoming.bindings, Bindings.sorted_merge s.sorted incoming.sorted⟩

def names (s : Scope) : List String := s.bindings.names

def leaves (s : Scope) : List (String × Value) := s.bindings.leavesUnder ""

/-- Equality of contents, numbers being compared as numbers. -/
def equal (s t : Scope) : Bool := s.bindings.equal t.bindings

@[ext] theorem ext {s t : Scope} (h : s.bindings = t.bindings) : s = t := by
  cases s
  cases t
  cases h
  rfl

@[simp] theorem merge_empty (s : Scope) : s.merge empty = s := rfl

@[simp] theorem set_nil (s : Scope) (v : Value) : s.set [] v = s := rfl

end Scope

end Narrative
