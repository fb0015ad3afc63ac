import Narrative.Proofs.Variables.Setting

/-!
Conditions on every binding of a tree, at every level, and what setting a variable keeps of them.
A tree in which every scope binds something is known by its values alone; the scopes that have no
value in them, however deep, can be left out of any tree, and what is left is such a tree.
-/

namespace Narrative

/-- What is bound inside an entry; nothing is bound inside a value. -/
def Entry.inside : Entry → Bindings
  | .value _ => .nil
  | .scope inner => inner

namespace Bindings

variable {P : String → Entry → Prop} {name : String} {entry : Entry} {b rest : Bindings}

/-- Whether a condition holds of every name with what is bound to it, at every level. -/
def Everywhere (P : String → Entry → Prop) : Bindings → Prop
  | .nil => True
  | .value name v rest => P name (.value v) ∧ rest.Everywhere P
  | .scope name inner rest => P name (.scope inner) ∧ inner.Everywhere P ∧ rest.Everywhere P

instance decidableEverywhere (P : String → Entry → Prop)
    [∀ name entry, Decidable (P name entry)] : (b : Bindings) → Decidable (b.Everywhere P)
  | .nil => .isTrue trivial
  | .value name v rest =>
    have := decidableEverywhere P rest
    inferInstanceAs (Decidable (P name (.value v) ∧ rest.Everywhere P))
  | .scope name inner rest =>
    have := decidableEverywhere P inner
    have := decidableEverywhere P rest
    inferInstanceAs (Decidable (P name (.scope inner) ∧ inner.Everywhere P ∧ rest.Everywhere P))

section Setting

theorem put_cons (name bound : String) (entry e : Entry) (rest : Bindings) :
    (cons bound e rest).put name entry =
      if name < bound then cons name entry (cons bound e rest)
      else if name = bound then cons name entry rest
      else cons bound e (rest.put name entry) := by
  cases e <;> rfl

theorem everywhere_cons :
    (cons name entry rest).Everywhere P ↔
      P name entry ∧ entry.inside.Everywhere P ∧ rest.Everywhere P := by
  cases entry <;> simp [cons, Entry.inside, Everywhere]

theorem everywhere_put (hentry : P name entry) (hinside : entry.inside.Everywhere P)
    (h : b.Everywhere P) : (b.put name entry).Everywhere P := by
  induction b using cons_induction with
  | nil => exact everywhere_cons.mpr ⟨hentry, hinside, trivial⟩
  | cons bound e rest ih =>
      obtain ⟨hbound, hwithin, hrest⟩ := everywhere_cons.mp h
      rw [put_cons]
      split_ifs
      · exact everywhere_cons.mpr ⟨hentry, hinside, h⟩
      · exact everywhere_cons.mpr ⟨hentry, hinside, hrest⟩
      · exact everywhere_cons.mpr ⟨hbound, hwithin, ih hrest⟩

theorem everywhere_of_find? (h : b.Everywhere P) (hfind : b.find? name = some entry) :
    P name entry ∧ entry.inside.Everywhere P := by
  induction b using cons_induction with
  | nil => cases hfind
  | cons bound e rest ih =>
      obtain ⟨hbound, hwithin, hrest⟩ := everywhere_cons.mp h
      rw [find?_cons] at hfind
      split_ifs at hfind with hname
      · cases hfind
        exact hname ▸ ⟨hbound, hwithin⟩
      · exact ih hrest hfind

theorem everywhere_inner (name : String) (h : b.Everywhere P) : (b.inner name).Everywhere P := by
  unfold inner
  split
  · rename_i hfind
    exact (everywhere_of_find? h hfind).2
  · trivial

theorem put_ne_nil (name : String) (entry : Entry) (b : Bindings) : b.put name entry ≠ nil := by
  intro hnil
  have hfind := find?_put name name entry b
  rw [hnil, if_pos rfl] at hfind
  cases hfind

/-- Setting a variable binds the names of its path, to a value or to scopes that are not empty, and
leaves every other binding as it is. -/
theorem everywhere_set {path : List String} (v : Value)
    (hpath : ∀ name ∈ path, ∀ entry, entry ≠ .scope .nil → P name entry)
    (h : b.Everywhere P) : (b.set path v).Everywhere P := by
  induction path generalizing b with
  | nil => exact h
  | cons name path ih =>
      have hname : ∀ entry, entry ≠ .scope .nil → P name entry := hpath name List.mem_cons_self
      cases path with
      | nil => exact everywhere_put (hname _ (by simp)) trivial h
      | cons next path =>
          have hothers := fun name hmem => hpath name (List.mem_cons_of_mem _ hmem)
          have hopened : (b.inner name).set (next :: path) v ≠ nil := by
            cases path <;> exact put_ne_nil next _ _
          exact everywhere_put (hname _ (by simpa using hopened))
            (ih hothers (everywhere_inner name h)) h

end Setting

section Populated

/-- Whether every inner scope, at every level, binds something. -/
def Populated (b : Bindings) : Prop :=
  b.Everywhere fun _ entry => entry ≠ .scope .nil

instance (b : Bindings) : Decidable b.Populated :=
  decidableEverywhere _ b

/-- Where every scope binds something, there is a value below every scope. -/
theorem exists_held?_value (h : b.Populated) (hne : b ≠ nil) :
    ∃ first path v, b.held? (first :: path) = some (.value v) := by
  induction b with
  | nil => exact absurd rfl hne
  | value name v rest _ => exact ⟨name, [], v, by simp [held?, find?]⟩
  | scope name inner rest ih _ =>
      obtain ⟨hinner, hwithin, -⟩ := h
      obtain ⟨first, path, v, hheld⟩ := ih hwithin (by simpa using hinner)
      have hfind : (scope name inner rest).find? name = some (.scope inner) := by simp [find?]
      exact ⟨name, first :: path, v, by rw [held?_of_scope hfind, hheld]⟩

/-- What anything stands below is a scope. -/
theorem held?_eq_scope_of_append {path : List String} {first : String} {below : List String}
    {holding : Holding} (h : b.held? (path ++ first :: below) = some holding) :
    b.held? path = some .scope := by
  induction path generalizing b with
  | nil => rfl
  | cons name path ih =>
      rw [List.cons_append] at h
      cases hfind : b.find? name with
      | none => simp [held?, hfind] at h
      | some entry =>
          cases entry with
          | value v => simp [held?, hfind] at h
          | scope inner =>
              rw [held?_of_scope hfind] at h ⊢
              exact ih h

theorem held?_eq_scope_iff (h : b.Populated) {path : List String} :
    b.held? path = some .scope ↔
      path = [] ∨ ∃ first below v, b.held? (path ++ first :: below) = some (.value v) := by
  constructor
  · intro hheld
    -- at the end of the path stands a scope that binds something, so it has a value below it
    induction path generalizing b with
    | nil => exact .inl rfl
    | cons name path ih =>
        right
        cases hfind : b.find? name with
        | none => simp [held?, hfind] at hheld
        | some entry =>
            cases entry with
            | value v => simp [held?, hfind] at hheld
            | scope inner =>
                obtain ⟨hne, hinner⟩ := everywhere_of_find? h hfind
                rw [held?_of_scope hfind] at hheld
                simp only [List.cons_append, held?_of_scope hfind]
                rcases ih hinner hheld with rfl | hbelow
                · exact exists_held?_value hinner (by simpa using hne)
                · exact hbelow
  · rintro (rfl | ⟨first, below, v, hbelow⟩)
    · rfl
    · exact held?_eq_scope_of_append hbelow

/-- Trees in which every scope binds something are the same if they have the same values. -/
theorem eq_of_get?_eq {a : Bindings} (ha : a.Sorted) (hb : b.Sorted) (hfull : a.Populated)
    (hfull' : b.Populated) (h : ∀ path, a.get? path = b.get? path) : a = b := by
  apply eq_of_held?_eq ha hb
  intro path
  apply Option.ext
  intro holding
  cases holding with
  | value v => rw [← get?_eq_some_iff, ← get?_eq_some_iff, h]
  | scope =>
      rw [held?_eq_scope_iff hfull, held?_eq_scope_iff hfull']
      simp only [← get?_eq_some_iff, h]

end Populated

section Pruning

/-- Whether there is a value among the bindings, or in an inner scope at any level. -/
def hasValue : Bindings → Bool
  | .nil => false
  | .value _ _ _ => true
  | .scope _ inner rest => inner.hasValue || rest.hasValue

/-- The bindings without the scopes in which there is no value at any level. -/
def pruned : Bindings → Bindings
  | .nil => .nil
  | .value name v rest => .value name v rest.pruned
  | .scope name inner rest =>
    if inner.hasValue then .scope name inner.pruned rest.pruned else rest.pruned

theorem above_pruned (habove : b.Above name) (h : b.Sorted) : b.pruned.Above name := by
  induction b with
  | nil => trivial
  | value n v rest _ => exact habove
  | scope n inner rest _ ih =>
      unfold pruned
      split
      · exact habove
      · exact ih (h.2.1.trans habove) h.2.2

theorem sorted_pruned (h : b.Sorted) : b.pruned.Sorted := by
  induction b with
  | nil => trivial
  | value n v rest ih => exact ⟨above_pruned h.1 h.2, ih h.2⟩
  | scope n inner rest ihInner ihRest =>
      unfold pruned
      split
      · exact ⟨ihInner h.1, above_pruned h.2.1 h.2.2, ihRest h.2.2⟩
      · exact ihRest h.2.2

theorem pruned_ne_nil (h : b.hasValue = true) : b.pruned ≠ nil := by
  induction b with
  | nil => cases h
  | value n v rest _ => simp [pruned]
  | scope n inner rest _ ih =>
      unfold pruned
      split_ifs with hinner
      · simp
      · exact ih (by simpa [hasValue, hinner] using h)

theorem populated_pruned (b : Bindings) : b.pruned.Populated := by
  induction b with
  | nil => trivial
  | value n v rest ih => exact ⟨by simp, ih⟩
  | scope n inner rest ihInner ihRest =>
      unfold pruned
      split_ifs with hinner
      · exact ⟨by simpa using pruned_ne_nil hinner, ihInner, ihRest⟩
      · exact ihRest

/-- Without the scopes that have no value in them, every name is bound to what it was bound to, or
to nothing if that was such a scope. -/
theorem find?_pruned (h : b.Sorted) :
    b.pruned.find? name =
      match b.find? name with
      | some (.scope inner) => if inner.hasValue then some (.scope inner.pruned) else none
      | other => other := by
  induction b with
  | nil => rfl
  | value n v rest ih =>
      by_cases hname : n = name
      · simp [pruned, find?, hname]
      · simp [pruned, find?, hname, ih h.2]
  | scope n inner rest _ ih =>
      by_cases hname : n = name
      · subst hname
        have hnone := find?_eq_none_of_above h.2.1 h.2.2
        by_cases hinner : inner.hasValue = true
        · simp [pruned, find?, hinner]
        · simp [pruned, find?, hinner, ih h.2.2, hnone]
      · by_cases hinner : inner.hasValue = true
        · simp [pruned, find?, hinner, hname, ih h.2.2]
        · simp [pruned, find?, hinner, hname, ih h.2.2]

theorem held?_ne_value (h : b.hasValue = false) (path : List String) (v : Value) :
    b.held? path ≠ some (.value v) := by
  induction b generalizing path with
  | nil => cases path <;> simp [held?, find?]
  | value n w rest _ => cases h
  | scope n inner rest ihInner ihRest =>
      obtain ⟨hinner, hrest⟩ := Bool.or_eq_false_iff.mp h
      cases path with
      | nil => simp [held?]
      | cons name path =>
          by_cases hname : n = name
          · have hfind : (scope n inner rest).find? name = some (.scope inner) := if_pos hname
            rw [held?_of_scope hfind]
            exact ihInner hinner path
          · simpa [held?, find?, hname] using ihRest hrest (name :: path)

/-- Leaving out the scopes without values loses no value. -/
theorem get?_pruned (h : b.Sorted) (path : List String) : b.pruned.get? path = b.get? path := by
  apply Option.ext
  intro v
  rw [get?_eq_some_iff, get?_eq_some_iff]
  induction path generalizing b with
  | nil => rfl
  | cons name path ih =>
      have hpruned : b.pruned.find? name = _ := find?_pruned h
      cases hfind : b.find? name with
      | none => simp [held?, hpruned, hfind]
      | some entry =>
          cases entry with
          | value w => simp [held?, hpruned, hfind]
          | scope inner =>
              rw [held?_of_scope hfind]
              by_cases hinner : inner.hasValue = true
              · have hkept : b.pruned.find? name = some (.scope inner.pruned) := by
                  simp [hpruned, hfind, hinner]
                rw [held?_of_scope hkept]
                exact ih (entrySorted_of_find? h hfind)
              · have hnone := held?_ne_value (Bool.eq_false_iff.mpr hinner) path v
                simp [held?, hpruned, hfind, hinner, hnone]

/-- What is kept has a value in it, and what is left out has none. -/
theorem hasValue_iff (h : b.Sorted) : b.hasValue = true ↔ ∃ path v, b.get? path = some v := by
  constructor
  · intro hvalue
    obtain ⟨first, path, v, hheld⟩ := exists_held?_value (populated_pruned b) (pruned_ne_nil hvalue)
    exact ⟨first :: path, v, by rw [← get?_pruned h, get?_eq_some_iff, hheld]⟩
  · rintro ⟨path, v, hget⟩
    by_contra hnone
    exact held?_ne_value (Bool.eq_false_iff.mpr hnone) path v (get?_eq_some_iff.mp hget)

end Pruning

end Bindings

namespace Scope

/-- Whether every inner scope, at every level, binds something. -/
def Populated (s : Scope) : Prop := s.bindings.Populated

instance (s : Scope) : Decidable s.Populated :=
  inferInstanceAs (Decidable s.bindings.Populated)

/-- A scope without the inner scopes in which there is no value at any level. -/
def pruned (s : Scope) : Scope :=
  ⟨s.bindings.pruned, Bindings.sorted_pruned s.sorted⟩

end Scope

end Narrative
