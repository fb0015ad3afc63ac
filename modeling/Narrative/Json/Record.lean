import Narrative.Json.Basic

/-!
Records. A record is an object, whose members may come in any order and among
others, or an array of its fields in their order, of which the last may be left
out. Whether a missing field has a default is for the field to say.
-/

namespace Narrative.Json

/-- The member of a name: `none` inside if there is no such member, and no answer
if there are several. -/
def member? (members : List (String × Json)) (name : String) : Option (Option Json) :=
  match members.filter (·.1 == name) with
  | [] => some none
  | [(_, value)] => some (some value)
  | _ => none

/-- The fields of a record in the order of their names, with `none` for the
missing ones. An array with more items than there are fields is no record. -/
def fields? (names : List String) : Json → Option (List (Option Json))
  | .object members => names.mapM (member? members)
  | .array items =>
    if items.length ≤ names.length then
      some (items.map some ++ List.replicate (names.length - items.length) none)
    else none
  | _ => none

def required {α : Type} (read? : Json → Option α) (field : Option Json) : Option α :=
  field.bind read?

def withDefault {α : Type} (default : α) (read? : Json → Option α) : Option Json → Option α
  | none => some default
  | some value => read? value

/-- A text that may be missing or null. -/
def optionalText? : Option Json → Option (Option String)
  | none => some none
  | some .null => some none
  | some (.text s) => some (some s)
  | some _ => none

/-- The member of an optional text: nothing is written for a missing one. -/
def optionalMember (name : String) : Option String → List (String × Json)
  | none => []
  | some s => [(name, .text s)]

private theorem sizeOf_member_lt {members : List (String × Json)} {name : String} {value : Json}
    (h : member? members name = some (some value)) : sizeOf value < sizeOf members := by
  unfold member? at h
  split at h
  · cases h
  · rename_i key found heq
    cases h
    have hmem : (key, value) ∈ members := by
      have : (key, value) ∈ members.filter (·.1 == name) := by simp [heq]
      exact (List.mem_filter.mp this).1
    have := List.sizeOf_lt_of_mem hmem
    simp at this
    omega
  · cases h

private theorem exists_of_mapM {α β : Type} {f : α → Option β} {xs : List α} {ys : List β}
    {y : β} (h : xs.mapM f = some ys) (hy : y ∈ ys) : ∃ x ∈ xs, f x = some y := by
  induction xs generalizing ys with
  | nil =>
      simp at h
      subst h
      cases hy
  | cons x xs ih =>
      simp only [List.mapM_cons, Option.bind_eq_bind, Option.bind_eq_some_iff, Option.pure_def,
        Option.some.injEq] at h
      obtain ⟨first, hfirst, others, hothers, rfl⟩ := h
      rcases List.mem_cons.mp hy with rfl | hmem
      · exact ⟨x, List.mem_cons_self, hfirst⟩
      · obtain ⟨found, hfound, hread⟩ := ih hothers hmem
        exact ⟨found, List.mem_cons_of_mem _ hfound, hread⟩

/-- A field is smaller than its record, so records inside records can be read by
recursion. -/
theorem sizeOf_field_lt {names : List String} {record value : Json} {fields : List (Option Json)}
    (h : fields? names record = some fields) (hvalue : some value ∈ fields) :
    sizeOf value < sizeOf record := by
  unfold fields? at h
  split at h
  · rename_i members
    obtain ⟨name, -, hmember⟩ := exists_of_mapM h hvalue
    have := sizeOf_member_lt hmember
    simp
    omega
  · rename_i items
    split at h
    · cases h
      rcases List.mem_append.mp hvalue with hmem | hmem
      · simp only [List.mem_map, Option.some.injEq, exists_eq_right] at hmem
        have := List.sizeOf_lt_of_mem hmem
        simp
        omega
      · simp at hmem
    · cases h
  · cases h

end Narrative.Json
