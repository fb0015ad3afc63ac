import Narrative.Json.Record
import Narrative.Variables.Store

/-!
Variables as stored data. A value is a truth value, a number or a text; a scope
is an object of values and scopes, and nothing else is either.
-/

namespace Narrative

def Value.ofJson? : Json → Option Value
  | .bool b => some (.bool b)
  | .text s => some (.text s)
  | other => other.asNumber?.map .number

/-- The value as stored data, which has no way to write an infinite number. -/
def Value.toJson : Value → Json
  | .bool b => .bool b
  | .number x => if x.isFinite then .real x else .null
  | .text s => .text s

namespace Bindings

def toMembers : Bindings → List (String × Json)
  | .nil => []
  | .value name v rest => (name, v.toJson) :: rest.toMembers
  | .scope name inner rest => (name, .object inner.toMembers) :: rest.toMembers

mutual

def entryOfJson? : Json → Option Entry
  | .object members => (bindMembers? .nil members).map .scope
  | other => (Value.ofJson? other).map .value

/-- The bindings with the given members put in, one after another. -/
def bindMembers? (bindings : Bindings) : List (String × Json) → Option Bindings
  | [] => some bindings
  | (name, datum) :: members =>
    match entryOfJson? datum with
    | some entry => bindMembers? (bindings.put name entry) members
    | none => none

end

mutual

theorem entrySorted_ofJson? : ∀ {data : Json} {entry : Entry},
    entryOfJson? data = some entry → EntrySorted entry
  | .object members, entry, h => by
      simp only [entryOfJson?, Option.map_eq_some_iff] at h
      obtain ⟨bindings, hbind, rfl⟩ := h
      exact sorted_bindMembers? sorted_nil hbind
  | .null, entry, h | .bool _, entry, h | .int _, entry, h | .real _, entry, h
  | .text _, entry, h | .array _, entry, h | .unusable, entry, h => by
      simp only [entryOfJson?, Option.map_eq_some_iff] at h
      obtain ⟨v, -, rfl⟩ := h
      trivial

/-- Members put into sorted bindings leave them sorted. -/
theorem sorted_bindMembers? : ∀ {base bindings : Bindings} {members : List (String × Json)},
    base.Sorted → bindMembers? base members = some bindings → bindings.Sorted
  | base, bindings, [], hbase, h => by
      simp only [bindMembers?, Option.some.injEq] at h
      exact h ▸ hbase
  | base, bindings, (name, datum) :: members, hbase, h => by
      simp only [bindMembers?] at h
      split at h
      · rename_i entry hentry
        exact sorted_bindMembers? (sorted_put (entrySorted_ofJson? hentry) hbase) h
      · cases h

end

end Bindings

def Scope.toJson (s : Scope) : Json :=
  .object s.bindings.toMembers

def Scope.ofJson? : Json → Option Scope
  | .object members =>
    match h : Bindings.bindMembers? .nil members with
    | some bindings => some ⟨bindings, Bindings.sorted_bindMembers? Bindings.sorted_nil h⟩
    | none => none
  | _ => none

def Declaration.ofJson? (data : Json) : Option Declaration :=
  match Json.fields? ["name", "initialValue"] data with
  | some [name, initial] => do
    return { name := ← Json.required Json.asText? name,
             initial := ← Json.required Value.ofJson? initial }
  | _ => none

def Declaration.toJson (d : Declaration) : Json :=
  .object [("name", .text d.name), ("initialValue", d.initial.toJson)]

def Namespace.ofJson? (data : Json) : Option Namespace :=
  match Json.fields? ["name", "variables"] data with
  | some [name, declarations] => do
    return { name := ← Json.required Json.asText? name,
             declarations :=
               ← Json.withDefault [] (Json.asList? Declaration.ofJson?) declarations }
  | _ => none

def Namespace.toJson (n : Namespace) : Json :=
  .object [("name", .text n.name), ("variables", .array (n.declarations.map Declaration.toJson))]

end Narrative
