import Narrative.Graph.Kind

/-!
Known and unknown kinds. Type names that are known, and definitions of types, lead to known
kinds only; what remains unknown keeps the name of the type itself. The kind of a type goes by
the first of its definitions that gives one, and what it is derived from by any of them. Main
statement: the two never disagree on whether a type is known.
-/

namespace Narrative

theorem Kind.isUnknown_of_ofTypeName? {name : String} {kind : Kind}
    (h : Kind.ofTypeName? name = some kind) : kind.isUnknown = false := by
  unfold Kind.ofTypeName? at h
  repeat' split at h
  all_goals cases h
  all_goals rfl

/-- Whether a definition has a name as the class or as the origin of its type. -/
def TypeDefinition.Names (definition : TypeDefinition) (name : String) : Prop :=
  definition.className = name ∨ definition.derivedFrom = some name

namespace Graph

variable {g : Graph} {n : Node} {typeName ancestor : String} {definition : TypeDefinition}
  {kind : Kind}

theorem isDerivedFrom_iff :
    g.isDerivedFrom typeName ancestor = true ↔
      typeName = ancestor ∨
        ∃ definition ∈ g.definitionsOf typeName, definition.Names ancestor := by
  simp [isDerivedFrom, TypeDefinition.Names]

/-- The kind that a definition gives to its type is that of its class or its origin. -/
theorem exists_name_of_kindOfDefinition? (h : kindOfDefinition? definition = some kind) :
    ∃ name, definition.Names name ∧ Kind.ofTypeName? name = some kind := by
  rcases Option.or_eq_some_iff.mp h with hclass | ⟨-, horigin⟩
  · exact ⟨definition.className, .inl rfl, hclass⟩
  · obtain ⟨origin, hfield, hkind⟩ := Option.bind_eq_some_iff.mp horigin
    exact ⟨origin, .inr hfield, hkind⟩

/-- A definition that gives no kind has neither a known class nor a known origin. -/
theorem ofTypeName?_eq_none_of_names (h : kindOfDefinition? definition = none)
    (hname : definition.Names ancestor) : Kind.ofTypeName? ancestor = none := by
  obtain ⟨hclass, horigin⟩ := Option.or_eq_none_iff.mp h
  rcases hname with rfl | hfield
  · exact hclass
  · rwa [hfield, Option.bind_some] at horigin

/-- The kind of a type is that of its own name, or is given by one of its definitions; or else
neither its name nor any of its definitions gives one, and the kind is unknown. -/
theorem kindOfType_cases (g : Graph) (typeName : String) :
    Kind.ofTypeName? typeName = some (g.kindOfType typeName) ∨
      Kind.ofTypeName? typeName = none ∧
        ((∃ definition ∈ g.definitionsOf typeName,
            kindOfDefinition? definition = some (g.kindOfType typeName)) ∨
          (∀ definition ∈ g.definitionsOf typeName, kindOfDefinition? definition = none) ∧
            g.kindOfType typeName = .unknown typeName) := by
  unfold kindOfType
  cases hown : Kind.ofTypeName? typeName with
  | some kind => exact .inl rfl
  | none =>
      refine .inr ⟨rfl, ?_⟩
      cases hfound : (g.definitionsOf typeName).findSome? kindOfDefinition? with
      | some kind => exact .inl (List.exists_of_findSome?_eq_some hfound)
      | none => exact .inr ⟨List.findSome?_eq_none_iff.mp hfound, rfl⟩

/-- A kind is found under a known name that the type has or is derived from, and under its own
name if that is known. -/
theorem kindOfType_known_or_unknown (g : Graph) (typeName : String) :
    (∃ name, Kind.ofTypeName? name = some (g.kindOfType typeName) ∧
        g.isDerivedFrom typeName name = true ∧
        ((Kind.ofTypeName? typeName).isSome → name = typeName)) ∨
      g.kindOfType typeName = .unknown typeName ∧
        ∀ name, (Kind.ofTypeName? name).isSome → g.isDerivedFrom typeName name = false := by
  rcases kindOfType_cases g typeName with
    hown | ⟨hnone, ⟨definition, hmem, hgives⟩ | ⟨hgives, hunknown⟩⟩
  · exact .inl ⟨typeName, hown, isDerivedFrom_iff.mpr (.inl rfl), fun _ => rfl⟩
  · obtain ⟨name, hname, hkind⟩ := exists_name_of_kindOfDefinition? hgives
    have hderived := isDerivedFrom_iff.mpr (.inr ⟨definition, hmem, hname⟩)
    exact .inl ⟨name, hkind, hderived, by simp [hnone]⟩
  · refine .inr ⟨hunknown, fun name hknown => ?_⟩
    rw [← Bool.not_eq_true, isDerivedFrom_iff]
    rintro (rfl | ⟨definition, hmem, hname⟩)
    · simp [hnone] at hknown
    · simp [ofTypeName?_eq_none_of_names (hgives definition hmem) hname] at hknown

theorem eq_typeName_of_kindOf {typeName : String} (h : g.kindOf n = .unknown typeName) :
    typeName = n.typeName := by
  rcases kindOfType_known_or_unknown g n.typeName with ⟨name, hname, -, -⟩ | ⟨hunknown, -⟩
  · have hknown := Kind.isUnknown_of_ofTypeName? hname
    rw [← kindOf, h] at hknown
    cases hknown
  · rw [← kindOf, h] at hunknown
    exact Kind.unknown.inj hunknown

/-- The kind of a node is unknown if and only if its type is derived from no type with a known
name, itself included, and then has the name of the type. A known kind is that of a known name
from which the type is derived, and of the type's own name if that is known. -/
theorem kindOf_agrees_isDerivedFrom (g : Graph) (n : Node) :
    ((g.kindOf n).isUnknown = true ↔
      ∀ name, (Kind.ofTypeName? name).isSome → g.isDerivedFrom n.typeName name = false) ∧
    ((g.kindOf n).isUnknown = true → g.kindOf n = .unknown n.typeName) ∧
    ((g.kindOf n).isUnknown = false →
      ∃ name, Kind.ofTypeName? name = some (g.kindOf n) ∧
        g.isDerivedFrom n.typeName name = true ∧
        ((Kind.ofTypeName? n.typeName).isSome → name = n.typeName)) := by
  rcases kindOfType_known_or_unknown g n.typeName with
    ⟨name, hname, hderived, hown⟩ | ⟨hunknown, hnone⟩
  · rw [← kindOf] at hname
    have hknown : ¬(g.kindOf n).isUnknown = true := by
      simp [Kind.isUnknown_of_ofTypeName? hname]
    refine ⟨⟨fun h => absurd h hknown, fun hall => ?_⟩, fun h => absurd h hknown,
      fun _ => ⟨name, hname, hderived, hown⟩⟩
    have hfree := hall name (by simp [hname])
    rw [hderived] at hfree
    cases hfree
  · rw [← kindOf] at hunknown
    rw [hunknown]
    refine ⟨⟨fun _ => hnone, fun _ => rfl⟩, fun _ => rfl, fun hknown => ?_⟩
    cases hknown

/-- Types defined more than once: the first definition of an inn says nothing that is known, the
second one has a hub as its origin and the third one is a jump. An echo is its own origin. -/
def innAndEcho : Document where
  types := [
    { name := "Inn", className := "House" },
    { name := "Inn", className := "House", derivedFrom := some "Hub" },
    { name := "Inn", className := "Jump" },
    { name := "Echo", className := "Inn", derivedFrom := some "Echo" }]

/-- An inn is a hub, because it is derived from one. An echo is unknown: what it is derived from
counts, and not what an inn is derived from. -/
theorem kindOf_agrees_isDerivedFrom_of_innAndEcho :
    ∃ g, ofDocument innAndEcho = .ok g ∧
      g.kindOf { id := "a", typeName := "Inn" } = .hub ∧
      (∃ name, Kind.ofTypeName? name = some .hub ∧ g.isDerivedFrom "Inn" name = true) ∧
      g.kindOf { id := "b", typeName := "Echo" } = .unknown "Echo" ∧
      g.isDerivedFrom "Echo" "Hub" = false := by
  obtain ⟨g, hg, hhub, hunknown⟩ : ∃ g, ofDocument innAndEcho = .ok g ∧
      g.kindOf { id := "a", typeName := "Inn" } = .hub ∧
      (g.kindOf { id := "b", typeName := "Echo" }).isUnknown = true :=
    ⟨_, rfl, rfl, rfl⟩
  obtain ⟨-, -, hinn⟩ := kindOf_agrees_isDerivedFrom g { id := "a", typeName := "Inn" }
  obtain ⟨hecho, hname, -⟩ := kindOf_agrees_isDerivedFrom g { id := "b", typeName := "Echo" }
  rw [hhub] at hinn
  obtain ⟨name, hkind, hderived, -⟩ := hinn rfl
  exact ⟨g, hg, hhub, ⟨name, hkind, hderived⟩, hname hunknown, hecho.mp hunknown "Hub" rfl⟩

end Graph

end Narrative
