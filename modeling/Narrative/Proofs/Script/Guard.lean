import Narrative.Proofs.Outcome
import Narrative.Proofs.Variables.Agreement
import Narrative.Script.Guard

/-!
Guards are read before they are tested. Reading does not look at the variables: the
conditions of a guard, and whether it has any, are settled by its text alone. Testing
looks at the variables that the conditions name and at nothing else.
-/

namespace Narrative.Script

/-- The conditions that a guard joins. -/
def guardConditions (text : String) : Except LineError (List Statement) :=
  conditions (guardParts text.toList).2

/-- The variables that a guard asks about; a guard that cannot be read asks nothing. -/
def guardPaths (text : String) : List (List String) :=
  match guardConditions text with
  | .ok asked => asked.map Statement.path
  | .error _ => []

theorem guardHolds_eq (text : String) (store : Store) :
    guardHolds text store =
      (guardConditions text).map fun asked => (guardParts text.toList).1.holds asked store := by
  unfold guardHolds guardConditions
  obtain ⟨connective, parts⟩ := guardParts text.toList
  dsimp only
  cases conditions parts <;> rfl

theorem guardConditions_of_guardHolds {text : String} {store : Store} {cause : LineError}
    (h : guardHolds text store = .error cause) : guardConditions text = .error cause := by
  rw [guardHolds_eq] at h
  exact Outcome.map_eq_error_iff.mp h

theorem mem_guardPaths {text : String} {asked : List Statement} {s : Statement}
    (hread : guardConditions text = .ok asked) (hmem : s ∈ asked) : s.path ∈ guardPaths text := by
  rw [guardPaths, hread]
  exact List.mem_map_of_mem hmem

theorem Connective.holds_congr {connective : Connective} {asked : List Statement}
    {store other : Store} (h : ∀ s ∈ asked, s.holdsIn store = s.holdsIn other) :
    connective.holds asked store = connective.holds asked other := by
  have hanswers : asked.map (Statement.holdsIn store) = asked.map (Statement.holdsIn other) :=
    List.map_congr_left h
  cases asked with
  | nil => cases connective <;> rfl
  | cons s others =>
      cases connective with
      | all => simpa [Connective.holds] using congrArg (List.all · id) hanswers
      | any => simpa [Connective.holds] using congrArg (List.any · id) hanswers

theorem Statement.holdsIn_of_rel {s : Statement} {store other : Store}
    (h : Option.Rel Value.SameForm (store.get? s.path) (other.get? s.path)) :
    s.holdsIn store = s.holdsIn other := by
  unfold Statement.holdsIn
  generalize store.get? s.path = found at h ⊢
  generalize other.get? s.path = otherFound at h ⊢
  cases h with
  | none => rfl
  | some hform => exact hform.looselyEqual_eq s.value

/-- A guard has the same outcome in stores that agree on the variables it asks about. -/
theorem guardHolds_of_agreeOn {text : String} {paths : List (List String)} {store other : Store}
    (hpaths : guardPaths text ⊆ paths)
    (h : Scope.AgreeOn paths store.current other.current) :
    guardHolds text store = guardHolds text other := by
  rw [guardHolds_eq, guardHolds_eq]
  cases hread : guardConditions text with
  | error cause => rfl
  | ok asked =>
      have hsame : (guardParts text.toList).1.holds asked store =
          (guardParts text.toList).1.holds asked other := by
        apply Connective.holds_congr
        intro s hmem
        apply Statement.holdsIn_of_rel
        exact h s.path (hpaths (mem_guardPaths hread hmem))
      simp only [Except.map, hsame]

end Narrative.Script
