import Narrative.Json.Record
import Mathlib.Data.List.Nodup

/-!
Records as they are written. A record writes each of its fields under a name of its own, and
nothing for a field that is missing; what is written so is read back field by field, whichever
fields are missing.
-/

namespace Narrative.Json

variable {α β γ : Type}

theorem mapM_map_eq_some {f : β → Option γ} {g : α → β} {h : α → γ} {items : List α}
    (hf : ∀ a ∈ items, f (g a) = some (h a)) : (items.map g).mapM f = some (items.map h) := by
  induction items with
  | nil => rfl
  | cons a items ih =>
      have hfirst : f (g a) = some (h a) := hf a List.mem_cons_self
      have hrest : (items.map g).mapM f = some (items.map h) :=
        ih fun b hmem => hf b (List.mem_cons_of_mem a hmem)
      simp [hfirst, hrest]

theorem asList?_array_map {item? : Json → Option α} {toJson : α → Json} {items : List α}
    (h : ∀ a ∈ items, item? (toJson a) = some a) :
    asList? item? (.array (items.map toJson)) = some items := by
  simpa [asList?] using mapM_map_eq_some (h := id) h

/-- The members that are written for some fields: none for a missing one. -/
def writtenMembers (fields : List (String × Option Json)) : List (String × Json) :=
  fields.filterMap fun (name, value?) => value?.map fun value => (name, value)

@[simp] theorem writtenMembers_nil : writtenMembers [] = [] := rfl

@[simp] theorem writtenMembers_missing (name : String) (fields : List (String × Option Json)) :
    writtenMembers ((name, none) :: fields) = writtenMembers fields := rfl

@[simp] theorem writtenMembers_present (name : String) (value : Json)
    (fields : List (String × Option Json)) :
    writtenMembers ((name, some value) :: fields) = (name, value) :: writtenMembers fields := rfl

@[simp] theorem writtenMembers_optional (name : String) (text? : Option String)
    (fields : List (String × Option Json)) :
    writtenMembers ((name, text?.map .text) :: fields) =
      optionalMember name text? ++ writtenMembers fields := by
  cases text? <;> rfl

theorem filter_writtenMembers_of_notMem {fields : List (String × Option Json)} {name : String}
    (h : name ∉ fields.map Prod.fst) : (writtenMembers fields).filter (·.1 == name) = [] := by
  induction fields with
  | nil => rfl
  | cons field fields ih =>
      obtain ⟨bound, value?⟩ := field
      simp only [List.map_cons, List.mem_cons, not_or] at h
      cases value? with
      | none => exact ih h.2
      | some value => simp [Ne.symm h.1, ih h.2]

/-- What is written for a field is found under its name: one member, or none if it is missing. -/
theorem member?_writtenMembers {fields : List (String × Option Json)}
    (hnodup : (fields.map Prod.fst).Nodup) {name : String} {value? : Option Json}
    (hmem : (name, value?) ∈ fields) : member? (writtenMembers fields) name = some value? := by
  induction fields with
  | nil => cases hmem
  | cons field fields ih =>
      obtain ⟨bound, first?⟩ := field
      obtain ⟨hnew, hothers⟩ := List.nodup_cons.mp hnodup
      rcases List.mem_cons.mp hmem with heq | hmem
      · cases heq
        have hnone := filter_writtenMembers_of_notMem hnew
        cases value? <;> simp [member?, hnone]
      · have hne : bound ≠ name := by
          rintro rfl
          exact hnew (List.mem_map.mpr ⟨_, hmem, rfl⟩)
        have hrest := ih hothers hmem
        cases first? with
        | none => exact hrest
        | some value => simpa [member?, hne] using hrest

/-- Fields that are written under different names are read back in their order. -/
theorem fields?_of_written {names : List String} {fields : List (String × Option Json)}
    {record : Json} (hnodup : names.Nodup) (hwritten : record = .object (writtenMembers fields))
    (hnames : fields.map Prod.fst = names) :
    fields? names record = some (fields.map Prod.snd) := by
  subst hwritten hnames
  exact mapM_map_eq_some fun _ hmem => member?_writtenMembers hnodup hmem

@[simp] theorem optionalText?_map_text (text? : Option String) :
    optionalText? (text?.map .text) = some text? := by
  cases text? <;> rfl

end Narrative.Json
