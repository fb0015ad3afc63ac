import Narrative.Proofs.Variables.Overlay
import Mathlib.Data.Fintype.EquivFin
import Mathlib.Data.List.Infix

/-!
What a tree of variables holds at the end of a path: a value, a scope, or nothing. Trees that
hold the same along every path are the same tree, and what an overlay holds at a path is
settled by what its two parts hold there and above. Facts about whole trees are drawn from
these two, without looking at how bindings are listed. Main statement: the value that an
overlay has at a path.
-/

namespace Narrative

/-- What stands at the end of a path: a value, or a scope, whatever it binds. -/
inductive Holding where
  | value (v : Value)
  | scope
deriving DecidableEq

def Entry.holding : Entry → Holding
  | .value v => .value v
  | .scope _ => .scope

namespace Bindings

/-- What bindings hold at the end of a path. The empty path ends at the bindings themselves,
which are a scope; a path that goes on below a value ends nowhere. -/
def held? : List String → Bindings → Option Holding
  | [], _ => some .scope
  | name :: path, b =>
    match b.find? name with
    | some (.scope inner) => inner.held? path
    | some (.value v) => if path = [] then some (.value v) else none
    | none => none

/-- Whether a value stands at a proper beginning of the path. -/
def ValueAbove (path : List String) (b : Bindings) : Prop :=
  ∃ above, above <+: path ∧ above ≠ path ∧ (b.get? above).isSome

instance (path : List String) (b : Bindings) : Decidable (b.ValueAbove path) :=
  decidable_of_iff (∃ above ∈ path.inits, above ≠ path ∧ (b.get? above).isSome) <| by
    simp [ValueAbove]

/-- Bindings are none at all, or an entry before the others, be it a value or a scope. -/
@[elab_as_elim]
theorem cons_induction {motive : Bindings → Prop} (nil : motive .nil)
    (cons : ∀ name entry rest, motive rest → motive (cons name entry rest)) (b : Bindings) :
    motive b := by
  induction b with
  | nil => exact nil
  | value name v rest ih => exact cons name (.value v) rest ih
  | scope name inner rest _ ih => exact cons name (.scope inner) rest ih

theorem of_sorted_cons {name : String} {entry : Entry} {rest : Bindings}
    (h : (cons name entry rest).Sorted) : rest.Above name ∧ rest.Sorted := by
  cases entry with
  | value v => exact h
  | scope inner => exact h.2

/-- The first names of two listings with the same names are the same. -/
private theorem not_lt_of_find?_eq {name name' : String} {entry entry' : Entry}
    {rest rest' : Bindings} (hsorted : (cons name' entry' rest').Sorted)
    (h : (cons name entry rest).find? name = (cons name' entry' rest').find? name) :
    ¬ name < name' := by
  intro hlt
  have hnone : (cons name' entry' rest').find? name = none :=
    find?_eq_none_of_above (above_cons hlt) hsorted
  rw [hnone, find?_cons, if_pos rfl] at h
  cases h

/-- Bindings in listing order are what they answer for every name. -/
theorem eq_of_find?_eq {a b : Bindings} (ha : a.Sorted) (hb : b.Sorted)
    (h : ∀ name, a.find? name = b.find? name) : a = b := by
  induction a using cons_induction generalizing b with
  | nil =>
      cases b using cons_induction with
      | nil => rfl
      | cons name entry rest =>
          have hname := h name
          simp [find?] at hname
  | cons name entry rest ih =>
      cases b using cons_induction with
      | nil =>
          have hname := h name
          simp [find?] at hname
      | cons name' entry' rest' =>
          obtain rfl : name = name' :=
            String.le_antisymm (String.not_lt.mp (not_lt_of_find?_eq ha (h name').symm))
              (String.not_lt.mp (not_lt_of_find?_eq hb (h name)))
          obtain rfl : entry = entry' := by simpa using h name
          obtain ⟨habove, hrest⟩ := of_sorted_cons ha
          obtain ⟨habove', hrest'⟩ := of_sorted_cons hb
          have hothers (other : String) : rest.find? other = rest'.find? other := by
            by_cases hother : name = other
            · subst hother
              rw [find?_eq_none_of_above habove hrest, find?_eq_none_of_above habove' hrest']
            · simpa [hother] using h other
          rw [ih hrest hrest' hothers]

theorem find?_eq_none_of_notMem {name : String} {b : Bindings} (h : name ∉ b.names) :
    b.find? name = none := by
  induction b with
  | nil => rfl
  | value n v rest ih =>
      simp only [names, List.mem_cons, not_or] at h
      simp [find?, Ne.symm h.1, ih h.2]
  | scope n inner rest _ ih =>
      simp only [names, List.mem_cons, not_or] at h
      simp [find?, Ne.symm h.1, ih h.2]

theorem exists_find?_eq_none (b : Bindings) : ∃ name, b.find? name = none := by
  obtain ⟨name, hname⟩ := Infinite.exists_notMem_finset b.names.toFinset
  exact ⟨name, find?_eq_none_of_notMem fun hmem => hname (List.mem_toFinset.mpr hmem)⟩

theorem sizeOf_lt_of_find? {name : String} {inner b : Bindings}
    (h : b.find? name = some (.scope inner)) : sizeOf inner < sizeOf b := by
  induction b with
  | nil => cases h
  | value n v rest ih =>
      simp only [find?] at h
      split at h
      · cases h
      · have hrest := ih h
        simp only [value.sizeOf_spec]
        omega
  | scope n other rest _ ih =>
      simp only [find?] at h
      split at h
      · cases h
        simp only [scope.sizeOf_spec]
        omega
      · have hrest := ih h
        simp only [scope.sizeOf_spec]
        omega

theorem held?_singleton (name : String) (b : Bindings) :
    b.held? [name] = (b.find? name).map Entry.holding := by
  cases hfind : b.find? name with
  | none => simp [held?, hfind]
  | some entry => cases entry <;> simp [held?, hfind, Entry.holding]

theorem held?_of_scope {name : String} {inner b : Bindings}
    (h : b.find? name = some (.scope inner)) (path : List String) :
    b.held? (name :: path) = inner.held? path := by
  simp only [held?, h]

/-- Bindings in listing order are what they hold along every path. -/
theorem eq_of_held?_eq {a b : Bindings} (ha : a.Sorted) (hb : b.Sorted)
    (h : ∀ path, a.held? path = b.held? path) : a = b := by
  apply eq_of_find?_eq ha hb
  intro name
  have hname := h [name]
  rw [held?_singleton, held?_singleton] at hname
  cases hfind : a.find? name with
  | none => simpa [hfind, eq_comm] using hname
  | some entry =>
      rw [hfind] at hname
      obtain ⟨entry', hfind', hsame⟩ := Option.map_eq_some_iff.mp hname.symm
      rw [hfind']
      cases entry with
      | value v => cases entry' <;> simp_all [Entry.holding]
      | scope inner =>
          cases entry' with
          | value v => cases hsame
          | scope inner' =>
              have hinner (path : List String) : inner.held? path = inner'.held? path := by
                rw [← held?_of_scope hfind, ← held?_of_scope hfind', h]
              have hsmaller := sizeOf_lt_of_find? hfind
              rw [eq_of_held?_eq (entrySorted_of_find? ha hfind) (entrySorted_of_find? hb hfind')
                hinner]
termination_by sizeOf a

/-- The value at the end of a path is the one that is held there. -/
theorem get?_eq_some_iff {path : List String} {b : Bindings} {v : Value} :
    b.get? path = some v ↔ b.held? path = some (.value v) := by
  induction path generalizing b with
  | nil => simp [get?, held?]
  | cons name path ih =>
      cases path with
      | nil =>
          rw [held?_singleton]
          cases hfind : b.find? name with
          | none => simp [get?, hfind]
          | some entry => cases entry <;> simp [get?, hfind, Entry.holding]
      | cons next path =>
          rw [get?_cons]
          cases hfind : b.find? name with
          | none => simp [held?, hfind]
          | some entry =>
              cases entry with
              | value v => simp [held?, hfind]
              | scope inner =>
                  rw [held?_of_scope hfind]
                  exact ih

theorem valueAbove_iff {path : List String} {b : Bindings} :
    b.ValueAbove path ↔
      ∃ above v, above <+: path ∧ above ≠ path ∧ b.held? above = some (.value v) := by
  simp [ValueAbove, Option.isSome_iff_exists, get?_eq_some_iff]

/-- There is a value above what is below a name if the name has one, or if there is one in
its scope. -/
theorem valueAbove_cons {name : String} {path : List String} {b : Bindings} :
    b.ValueAbove (name :: path) ↔
      match b.find? name with
      | some (.scope inner) => inner.ValueAbove path
      | some (.value _) => path ≠ []
      | none => False := by
  rw [valueAbove_iff]
  constructor
  · rintro ⟨above, v, hbegins, hne, hheld⟩
    cases above with
    | nil => cases hheld
    | cons first above =>
        obtain ⟨rfl, hrest⟩ := List.cons_prefix_cons.mp hbegins
        have hdiffer : above ≠ path := fun heq => hne (by rw [heq])
        cases hfind : b.find? first with
        | none => simp [held?, hfind] at hheld
        | some entry =>
            cases entry with
            | value w =>
                have habove : above = [] := by simp_all [held?]
                exact habove ▸ hdiffer.symm
            | scope inner =>
                rw [held?_of_scope hfind] at hheld
                exact valueAbove_iff.mpr ⟨above, v, hrest, hdiffer, hheld⟩
  · cases hfind : b.find? name with
    | none => exact False.elim
    | some entry =>
        cases entry with
        | value v =>
            intro hpath
            have hne : [name] ≠ name :: path := fun heq => hpath (List.cons.inj heq).2.symm
            exact ⟨[name], v, by simp, hne, by simp [held?, hfind]⟩
        | scope inner =>
            intro habove
            obtain ⟨above, v, hbegins, hne, hheld⟩ := valueAbove_iff.mp habove
            have hne : name :: above ≠ name :: path := fun heq => hne (List.cons.inj heq).2
            rw [← held?_of_scope hfind] at hheld
            exact ⟨name :: above, v, List.cons_prefix_cons.mpr ⟨rfl, hbegins⟩, hne, hheld⟩

/-- Nothing stands below a value. -/
theorem not_valueAbove_of_held? {path : List String} {b : Bindings} {holding : Holding}
    (h : b.held? path = some holding) : ¬ b.ValueAbove path := by
  induction path generalizing b with
  | nil =>
      rintro ⟨above, hbegins, hne, -⟩
      exact hne (List.prefix_nil.mp hbegins)
  | cons name path ih =>
      rw [valueAbove_cons]
      cases hfind : b.find? name with
      | none => exact id
      | some entry =>
          cases entry with
          | value v =>
              intro hpath
              simp [held?, hfind, hpath] at h
          | scope inner =>
              rw [held?_of_scope hfind] at h
              exact ih h

/-- A scope has a name that nothing is bound to. -/
theorem exists_free_name {path : List String} {b : Bindings} (h : b.held? path = some .scope) :
    ∃ name, b.held? (path ++ [name]) = none := by
  induction path generalizing b with
  | nil =>
      obtain ⟨name, hname⟩ := exists_find?_eq_none b
      exact ⟨name, by simp [held?_singleton, hname]⟩
  | cons first path ih =>
      cases hfind : b.find? first with
      | none => simp [held?, hfind] at h
      | some entry =>
          cases entry with
          | value v => simp [held?, hfind] at h
          | scope inner =>
              rw [held?_of_scope hfind] at h
              obtain ⟨name, hname⟩ := ih h
              exact ⟨name, by rw [List.cons_append, held?_of_scope hfind, hname]⟩

/-- Along every path an overlay holds what came in, if anything did; and where nothing did, it
holds what was there before, unless a value came in above. -/
theorem held?_merge {base incoming : Bindings} (h : incoming.Sorted) (path : List String) :
    (base.merge incoming).held? path =
      (incoming.held? path).or (if incoming.ValueAbove path then none else base.held? path) := by
  induction path generalizing base incoming with
  | nil => rfl
  | cons name path ih =>
      have hfound : (base.merge incoming).find? name = _ := find?_merge h
      cases hfind : incoming.find? name with
      | none => simp only [held?, hfound, hfind, valueAbove_cons, if_false, Option.none_or]
      | some entry =>
          cases entry with
          | value v =>
              by_cases hpath : path = [] <;> simp [held?, hfound, hfind, valueAbove_cons, hpath]
          | scope inner =>
              have hinner : inner.Sorted := entrySorted_of_find? h hfind
              simp only [held?, hfound, hfind, valueAbove_cons]
              -- A scope that comes in meets a scope, or else stands there alone.
              cases base.find? name with
              | none => simp [overlaid]
              | some existing =>
                  cases existing with
                  | value v => cases path <;> simp [overlaid, held?]
                  | scope existing => exact ih hinner

end Bindings

namespace Scope

variable {s incoming : Scope} {path : List String}

/-- What a scope holds at the end of a path. -/
def held? (s : Scope) (path : List String) : Option Holding := s.bindings.held? path

/-- Whether a scope has a value at a proper beginning of the path. -/
def ValueAbove (s : Scope) (path : List String) : Prop := s.bindings.ValueAbove path

instance (s : Scope) (path : List String) : Decidable (s.ValueAbove path) :=
  inferInstanceAs (Decidable (s.bindings.ValueAbove path))

theorem eq_of_held?_eq {t : Scope} (h : ∀ path, s.held? path = t.held? path) : s = t :=
  ext (Bindings.eq_of_held?_eq s.sorted t.sorted h)

theorem get?_eq_some_iff {v : Value} : s.get? path = some v ↔ s.held? path = some (.value v) :=
  Bindings.get?_eq_some_iff

theorem valueAbove_iff :
    s.ValueAbove path ↔
      ∃ above v, above <+: path ∧ above ≠ path ∧ s.held? above = some (.value v) :=
  Bindings.valueAbove_iff

theorem not_valueAbove_of_held? {holding : Holding} (h : s.held? path = some holding) :
    ¬ s.ValueAbove path :=
  Bindings.not_valueAbove_of_held? h

theorem ValueAbove.mono {above : List String} (h : s.ValueAbove above) (hbegins : above <+: path) :
    s.ValueAbove path := by
  obtain ⟨top, htop, hne, hvalue⟩ := h
  refine ⟨top, htop.trans hbegins, ?_, hvalue⟩
  rintro rfl
  exact hne (htop.eq_of_length_le hbegins.length_le)

theorem valueAbove_concat {name : String} :
    s.ValueAbove (path ++ [name]) ↔ s.ValueAbove path ∨ ∃ v, s.held? path = some (.value v) := by
  rw [valueAbove_iff]
  constructor
  · rintro ⟨above, v, hbegins, hne, hheld⟩
    have habove : above <+: path := (List.prefix_concat_iff.mp hbegins).resolve_left hne
    by_cases heq : above = path
    · exact .inr ⟨v, heq ▸ hheld⟩
    · exact .inl (valueAbove_iff.mpr ⟨above, v, habove, heq, hheld⟩)
  · rintro (habove | ⟨v, hheld⟩)
    · exact valueAbove_iff.mp (habove.mono (List.prefix_append path [name]))
    · exact ⟨path, v, List.prefix_append path [name], by simp, hheld⟩

theorem exists_free_name (h : s.held? path = some .scope) :
    ∃ name, s.held? (path ++ [name]) = none :=
  Bindings.exists_free_name h

theorem held?_merge (s incoming : Scope) (path : List String) :
    (s.merge incoming).held? path =
      (incoming.held? path).or (if incoming.ValueAbove path then none else s.held? path) :=
  Bindings.held?_merge incoming.sorted path

/-- The value that an overlay has at a path is settled by what came in there and above. -/
theorem get?_merge (s incoming : Scope) (path : List String) :
    (s.merge incoming).get? path =
      match incoming.held? path with
      | some (.value v) => some v
      | some .scope => none
      | none => if incoming.ValueAbove path then none else s.get? path := by
  apply Option.ext
  intro v
  rw [get?_eq_some_iff, held?_merge]
  cases incoming.held? path with
  | none => by_cases habove : incoming.ValueAbove path <;> simp [habove, get?_eq_some_iff]
  | some holding => cases holding <;> simp

/-- The value that an overlay has at a path is the one that came in at the path; none where a
scope came in, or a value above; and in every other case the one that was there before. So a
value is lost only to what comes in at its path, or to a value that comes in above it. -/
theorem merge_pointwise (s incoming : Scope) (path : List String) :
    ((s.merge incoming).get? path =
      match incoming.held? path with
      | some (.value v) => some v
      | some .scope => none
      | none => if incoming.ValueAbove path then none else s.get? path) ∧
    ∀ v, s.get? path = some v → (s.merge incoming).get? path ≠ some v →
      incoming.held? path ≠ none ∨ incoming.ValueAbove path := by
  refine ⟨get?_merge s incoming path, ?_⟩
  intro v hbefore hlost
  by_cases habove : incoming.ValueAbove path
  · exact .inr habove
  · left
    intro hnothing
    apply hlost
    rw [get?_merge, hnothing]
    exact (if_neg habove).trans hbefore

/-- A door and its lock. -/
def door : Scope :=
  (empty.set ["Door", "Open"] (.bool true)).set ["Door", "Lock", "Key"] (.text "brass")

/-- What breaking the lock assigns: a value in place of the scope. -/
def brokenLock : Scope := empty.set ["Door", "Lock"] (.text "broken")

/-- The key is lost with its lock, and the door stays open. -/
theorem merge_pointwise_of_door :
    (door.merge brokenLock).get? ["Door", "Lock", "Key"] = none ∧
    (door.merge brokenLock).get? ["Door", "Open"] = some (.bool true) ∧
    brokenLock.ValueAbove ["Door", "Lock", "Key"] := by
  have hkey := merge_pointwise door brokenLock ["Door", "Lock", "Key"]
  have hopen := (merge_pointwise door brokenLock ["Door", "Open"]).1
  have hbefore : door.get? ["Door", "Lock", "Key"] = some (.text "brass") := by decide +kernel
  have hlost : (door.merge brokenLock).get? ["Door", "Lock", "Key"] = none :=
    hkey.1.trans (by decide +kernel)
  have hcause := hkey.2 (.text "brass") hbefore (by rw [hlost]; simp)
  refine ⟨hlost, hopen.trans (by decide +kernel), ?_⟩
  exact hcause.resolve_left (by decide +kernel)

end Scope

end Narrative
