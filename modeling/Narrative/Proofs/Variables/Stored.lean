import Narrative.Proofs.Json.Record
import Narrative.Proofs.Variables.Holding
import Narrative.Variables.Json

/-!
Variables read back from stored data. Values come back as they were written, save numbers that
are not finite, which the data has no way to write; scopes come back with every name, empty
scopes included.
-/

namespace Narrative

/-- Whether a value is no number, or a finite one. -/
def Value.IsFinite : Value → Prop
  | .number x => x.isFinite = true
  | _ => True

instance : (v : Value) → Decidable v.IsFinite
  | .number x => inferInstanceAs (Decidable (x.isFinite = true))
  | .bool _ | .text _ => .isTrue trivial

theorem Value.toJson_of_isFinite {x : Binary64} (h : x.isFinite = true) :
    (Value.number x).toJson = .real x := if_pos h

theorem Value.ofJson?_toJson {v : Value} (h : v.IsFinite) : Value.ofJson? v.toJson = some v := by
  cases v with
  | bool b => rfl
  | text s => rfl
  | number x =>
      rw [toJson_of_isFinite h]
      rfl

namespace Bindings

theorem entryOfJson?_toJson {v : Value} (h : v.IsFinite) :
    entryOfJson? v.toJson = some (.value v) := by
  cases v with
  | bool b => rfl
  | text s => rfl
  | number x =>
      rw [Value.toJson_of_isFinite h]
      rfl

/-- Putting bindings before others and looking a name up is looking it up in either. -/
theorem find?_or_put {name n : String} (entry : Entry) {rest base : Bindings}
    (h : (cons n entry rest).Sorted) :
    (rest.find? name).or ((base.put n entry).find? name) =
      ((cons n entry rest).find? name).or (base.find? name) := by
  obtain ⟨habove, hrest⟩ := of_sorted_cons h
  rw [find?_put, find?_cons]
  by_cases hname : n = name
  · subst hname
    simp [find?_eq_none_of_above habove hrest]
  · simp [hname]

/-- Members that are put into nothing give the bindings that answer as they do. -/
theorem eq_of_bindMembers?_nil {members : List (String × Json)} {bound b : Bindings}
    (hread : bindMembers? nil members = some bound) (hsorted : b.Sorted)
    (hsame : ∀ name, bound.find? name = (b.find? name).or (nil.find? name)) : bound = b := by
  apply eq_of_find?_eq (sorted_bindMembers? sorted_nil hread) hsorted
  intro name
  rw [hsame]
  exact Option.or_none

/-- Stored members that are put into bindings go in place of what their names were bound to. -/
theorem bindMembers?_toMembers {b : Bindings} (path : String) (hsorted : b.Sorted)
    (hfinite : ∀ leaf ∈ b.leavesUnder path, leaf.2.IsFinite) (base : Bindings) :
    ∃ bound, bindMembers? base b.toMembers = some bound ∧
      ∀ name, bound.find? name = (b.find? name).or (base.find? name) := by
  induction b generalizing path base with
  | nil => exact ⟨base, rfl, fun name => by simp [find?]⟩
  | value n v rest ih =>
      have hv : v.IsFinite := hfinite (dotted path n, v) List.mem_cons_self
      have hothers : ∀ leaf ∈ rest.leavesUnder path, leaf.2.IsFinite :=
        fun leaf hmem => hfinite leaf (List.mem_cons_of_mem _ hmem)
      obtain ⟨bound, hbound, hfind⟩ := ih path hsorted.2 hothers (base.put n (.value v))
      refine ⟨bound, by simp [toMembers, bindMembers?, entryOfJson?_toJson hv, hbound], ?_⟩
      intro name
      rw [hfind]
      exact find?_or_put (.value v) hsorted
  | scope n inner rest ihInner ihRest =>
      have hinside : ∀ leaf ∈ inner.leavesUnder (dotted path n), leaf.2.IsFinite :=
        fun leaf hmem => hfinite leaf (List.mem_append_left _ hmem)
      have hothers : ∀ leaf ∈ rest.leavesUnder path, leaf.2.IsFinite :=
        fun leaf hmem => hfinite leaf (List.mem_append_right _ hmem)
      obtain ⟨inside, hread, hsame⟩ := ihInner (dotted path n) hsorted.1 hinside nil
      obtain rfl : inside = inner := eq_of_bindMembers?_nil hread hsorted.1 hsame
      obtain ⟨bound, hbound, hfind⟩ := ihRest path hsorted.2.2 hothers (base.put n (.scope inside))
      refine ⟨bound, by simp [toMembers, bindMembers?, entryOfJson?, hread, hbound], ?_⟩
      intro name
      rw [hfind]
      exact find?_or_put (.scope inside) hsorted

end Bindings

/-- Whether every number among the variables of a scope is finite. -/
def Scope.IsFinite (s : Scope) : Prop :=
  ∀ leaf ∈ s.leaves, leaf.2.IsFinite

instance (s : Scope) : Decidable s.IsFinite :=
  inferInstanceAs (Decidable (∀ leaf ∈ s.leaves, leaf.2.IsFinite))

theorem Scope.ofJson?_toJson {s : Scope} (h : s.IsFinite) : Scope.ofJson? s.toJson = some s := by
  obtain ⟨bound, hread, hsame⟩ := Bindings.bindMembers?_toMembers "" s.sorted h .nil
  obtain rfl : bound = s.bindings := Bindings.eq_of_bindMembers?_nil hread s.sorted hsame
  simp only [toJson, ofJson?]
  split
  · rename_i bindings hbindings
    obtain rfl : bindings = s.bindings := Option.some.inj (hbindings.symm.trans hread)
    rfl
  · rename_i hnone
    rw [hread] at hnone
    cases hnone

open Json

theorem Declaration.ofJson?_toJson {d : Declaration} (h : d.initial.IsFinite) :
    Declaration.ofJson? d.toJson = some d := by
  have hwritten : d.toJson = .object (writtenMembers
      [("name", some (.text d.name)), ("initialValue", some d.initial.toJson)]) := rfl
  have hnodup : ["name", "initialValue"].Nodup := by decide
  have hfields := fields?_of_written hnodup hwritten rfl
  simp [Declaration.ofJson?, hfields, required, asText?, Value.ofJson?_toJson h]

theorem Namespace.ofJson?_toJson {n : Namespace} (h : ∀ d ∈ n.declarations, d.initial.IsFinite) :
    Namespace.ofJson? n.toJson = some n := by
  have hwritten : n.toJson = .object (writtenMembers
      [("name", some (.text n.name)),
       ("variables", some (.array (n.declarations.map Declaration.toJson)))]) := rfl
  have hnodup : ["name", "variables"].Nodup := by decide
  have hfields := fields?_of_written hnodup hwritten rfl
  have hdeclarations : asList? Declaration.ofJson?
      (.array (n.declarations.map Declaration.toJson)) = some n.declarations :=
    asList?_array_map fun d hmem => Declaration.ofJson?_toJson (h d hmem)
  simp [Namespace.ofJson?, hfields, required, asText?, withDefault, hdeclarations]

end Narrative
