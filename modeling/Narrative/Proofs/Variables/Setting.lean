import Narrative.Proofs.Variables.Holding

/-!
Setting one variable. It does what the overlay of that one value does, so what is said of overlays
covers every assignment. Main statement: the value is at its path afterwards, and has taken the
place of whatever stood above it or below it; the rest of the tree is as it was.
-/

namespace Narrative

namespace Bindings

/-- Setting a value is the overlay of that value alone. -/
theorem set_eq_merge (path : List String) (v : Value) (b : Bindings) :
    b.set path v = b.merge (nil.set path v) := by
  induction path generalizing b with
  | nil => rfl
  | cons name path ih =>
      cases path with
      | nil => rfl
      | cons next path =>
          have halone : nil.set (name :: next :: path) v =
              scope name (nil.set (next :: path) v) nil := rfl
          rw [halone, merge_scope]
          change b.put name (.scope ((b.inner name).set (next :: path) v)) = b.put name _
          unfold inner
          cases b.find? name with
          | none => rfl
          | some entry =>
              cases entry with
              | value w => rfl
              | scope existing => rw [ih existing]; rfl

/-- A value that is set alone stands at its path, and around it there are scopes only. -/
theorem held?_set_nil (path : List String) (v : Value) (q : List String) :
    (nil.set path v).held? q =
      if q = path ∧ path ≠ [] then some (.value v)
      else if q <+: path then some .scope else none := by
  induction path generalizing q with
  | nil => cases q <;> simp [set, held?, find?]
  | cons name path ih =>
      cases q with
      | nil => simp [held?]
      | cons first q =>
          have halone : nil.set (name :: path) v =
              cons name (if path = [] then .value v else .scope (nil.set path v)) nil := by
            cases path <;> rfl
          have hfind : (nil.set (name :: path) v).find? first =
              if name = first then
                some (if path = [] then .value v else .scope (nil.set path v))
              else none := by
            rw [halone, find?_cons]
            rfl
          by_cases hname : name = first
          · subst hname
            by_cases hpath : path = []
            · subst hpath
              by_cases hq : q = [] <;> simp [held?, hfind, hq]
            · simp [held?, hfind, hpath, ih]
          · simp [held?, hfind, hname, Ne.symm hname]

end Bindings

namespace Scope

variable {path : List String}

theorem get?_empty (path : List String) : empty.get? path = none := by
  rcases path with _ | ⟨name, _ | ⟨next, path⟩⟩ <;> rfl

theorem set_eq_merge (s : Scope) (path : List String) (v : Value) :
    s.set path v = s.merge (empty.set path v) :=
  ext (Bindings.set_eq_merge path v s.bindings)

theorem held?_set_empty (path : List String) (v : Value) (q : List String) :
    (empty.set path v).held? q =
      if q = path ∧ path ≠ [] then some (.value v)
      else if q <+: path then some .scope else none :=
  Bindings.held?_set_nil path v q

/-- A value that is set alone stands above the paths that go on below its own. -/
theorem valueAbove_set_empty {q : List String} {v : Value} (hne : path ≠ []) :
    (empty.set path v).ValueAbove q ↔ path <+: q ∧ path ≠ q := by
  rw [valueAbove_iff]
  constructor
  · rintro ⟨above, w, hbegins, hother, hheld⟩
    rw [held?_set_empty] at hheld
    by_cases habove : above = path
    · exact habove ▸ ⟨hbegins, hother⟩
    · simp [habove] at hheld
  · rintro ⟨hbegins, hother⟩
    exact ⟨path, v, hbegins, hother, by simp [held?_set_empty, hne]⟩

/-- What is set stands at its path, with scopes above it and nothing below it, and everywhere else
stands what stood there before. -/
theorem held?_set (s : Scope) (hne : path ≠ []) (v : Value) (q : List String) :
    (s.set path v).held? q =
      if q = path then some (.value v)
      else if q <+: path then some .scope
      else if path <+: q then none else s.held? q := by
  rw [set_eq_merge, held?_merge, held?_set_empty]
  by_cases hpath : q = path
  · simp [hpath, hne]
  · by_cases hbegins : q <+: path
    · simp [hpath, hbegins]
    · simp [hpath, hbegins, valueAbove_set_empty hne, Ne.symm hpath]

theorem get?_set (s : Scope) (hne : path ≠ []) (v : Value) (q : List String) :
    (s.set path v).get? q =
      if q = path then some v else if q <+: path ∨ path <+: q then none else s.get? q := by
  apply Option.ext
  intro w
  rw [get?_eq_some_iff, held?_set s hne]
  by_cases hpath : q = path
  · simp [hpath]
  · by_cases hbegins : q <+: path
    · simp [hpath, hbegins]
    · by_cases hbelow : path <+: q <;> simp [hpath, hbegins, hbelow, get?_eq_some_iff]

/-- After a value is set at a path, it is the value there, no value is left on the way to it or
below it, and along every other path is the value that was there before. Nothing is set at the
empty path. The whole tree is that which the overlay of the one value gives. -/
theorem set_pointwise (s : Scope) (path : List String) (v : Value) :
    (path ≠ [] → ∀ q, (s.set path v).get? q =
      if q = path then some v else if q <+: path ∨ path <+: q then none else s.get? q) ∧
    s.set [] v = s ∧
    s.set path v = s.merge (empty.set path v) := by
  refine ⟨?_, set_nil s v, set_eq_merge s path v⟩
  intro hne q
  exact get?_set s hne v q

/-- Where the lock of the door is set, its key is lost, and the door stays open. -/
theorem set_pointwise_of_door :
    (door.set ["Door", "Lock"] (.text "broken")).get? ["Door", "Lock"] = some (.text "broken") ∧
    (door.set ["Door", "Lock"] (.text "broken")).get? ["Door", "Lock", "Key"] = none ∧
    (door.set ["Door", "Lock"] (.text "broken")).get? ["Door"] = none ∧
    (door.set ["Door", "Lock"] (.text "broken")).get? ["Door", "Open"] = some (.bool true) := by
  have hset := (set_pointwise door ["Door", "Lock"] (.text "broken")).1 (by simp)
  refine ⟨?_, ?_, ?_, ?_⟩
  · simp [hset]
  · simp [hset]
  · simp [hset]
  · rw [hset]
    rfl

end Scope

end Narrative
