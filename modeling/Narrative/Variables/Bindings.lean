import Narrative.Variables.Value

/-!
The bindings of a scope. A scope binds names to values and to inner scopes, and
its bindings are listed in the order of their names. Looking up, setting and
merging all go by names; the listing order is kept by every one of them, so two
scopes with the same contents are the same term.
-/

namespace Narrative

/-- Bindings in listing order, each to a value or to an inner scope. -/
inductive Bindings where
  | nil
  | value (name : String) (v : Value) (rest : Bindings)
  | scope (name : String) (inner rest : Bindings)
deriving DecidableEq

inductive Entry where
  | value (v : Value)
  | scope (inner : Bindings)
deriving DecidableEq

namespace Bindings

def cons (name : String) : Entry → Bindings → Bindings
  | .value v, rest => .value name v rest
  | .scope inner, rest => .scope name inner rest

def isEmpty : Bindings → Bool
  | .nil => true
  | _ => false

def find? (name : String) : Bindings → Option Entry
  | .nil => none
  | .value n v rest => if n = name then some (.value v) else rest.find? name
  | .scope n inner rest => if n = name then some (.scope inner) else rest.find? name

/-- The inner scope bound to a name; empty if the name is free or has a value. -/
def inner (name : String) (b : Bindings) : Bindings :=
  match b.find? name with
  | some (.scope bindings) => bindings
  | _ => .nil

/-- Bind a name, in place of what it was bound to. -/
def put (name : String) (entry : Entry) : Bindings → Bindings
  | .nil => cons name entry .nil
  | .value n v rest =>
    if name < n then cons name entry (.value n v rest)
    else if name = n then cons name entry rest
    else .value n v (rest.put name entry)
  | .scope n inner rest =>
    if name < n then cons name entry (.scope n inner rest)
    else if name = n then cons name entry rest
    else .scope n inner (rest.put name entry)

/-- The value at the end of a path of names. -/
def get? : List String → Bindings → Option Value
  | [], _ => none
  | [name], b =>
    match b.find? name with
    | some (.value v) => some v
    | _ => none
  | name :: path, b =>
    match b.find? name with
    | some (.scope inner) => inner.get? path
    | _ => none

/-- Bind the value at the end of a path, opening scopes on the way. A value that
stands in the way gives place to a scope. -/
def set : List String → Value → Bindings → Bindings
  | [], _, b => b
  | [name], v, b => b.put name (.value v)
  | name :: path, v, b => b.put name (.scope ((b.inner name).set path v))

/-- The first bindings overlaid with the second ones: a value replaces whatever
its name was bound to, a scope is merged into the scope of its name, and takes
the place of a value. -/
def merge (base : Bindings) : Bindings → Bindings
  | .nil => base
  | .value name v rest => (base.put name (.value v)).merge rest
  | .scope name incoming rest =>
    match base.find? name with
    | some (.scope existing) => (base.put name (.scope (existing.merge incoming))).merge rest
    | _ => (base.put name (.scope incoming)).merge rest

def names : Bindings → List String
  | .nil => []
  | .value name _ rest => name :: rest.names
  | .scope name _ rest => name :: rest.names

/-- A dotted path one name longer; the empty path has no dot after it. -/
def dotted (path name : String) : String :=
  if path.isEmpty then name else path ++ "." ++ name

/-- Every value with its dotted path, in listing order, inside the given path. -/
def leavesUnder (path : String) : Bindings → List (String × Value)
  | .nil => []
  | .value name v rest => (dotted path name, v) :: rest.leavesUnder path
  | .scope name inner rest => inner.leavesUnder (dotted path name) ++ rest.leavesUnder path

/-- Equality of contents, numbers being compared as numbers. -/
def equal : Bindings → Bindings → Bool
  | .nil, .nil => true
  | .value n v rest, .value m w rest' => n == m && v.equal w && rest.equal rest'
  | .scope n inner rest, .scope m inner' rest' => n == m && inner.equal inner' && rest.equal rest'
  | _, _ => false

@[simp] theorem find?_cons (name bound : String) (entry : Entry) (rest : Bindings) :
    (cons bound entry rest).find? name = if bound = name then some entry else rest.find? name := by
  cases entry <;> rfl

/-- Binding a name changes what that name is bound to and no other name. -/
theorem find?_put (name bound : String) (entry : Entry) (bindings : Bindings) :
    (bindings.put bound entry).find? name =
      if bound = name then some entry else bindings.find? name := by
  induction bindings with
  | nil => simp [put, find?]
  | value n v rest ih =>
      unfold put
      split
      · simp
      · split
        · rename_i heq
          subst heq
          by_cases h : bound = name <;> simp [find?, h]
        · rename_i hne
          by_cases h : n = name
          · subst h
            simp [find?, hne]
          · simp [find?, h, ih]
  | scope n inner rest _ ih =>
      unfold put
      split
      · simp
      · split
        · rename_i heq
          subst heq
          by_cases h : bound = name <;> simp [find?, h]
        · rename_i hne
          by_cases h : n = name
          · subst h
            simp [find?, hne]
          · simp [find?, h, ih]

/-- Whether a name stands before all names of a listing. -/
def Above (name : String) : Bindings → Prop
  | .nil => True
  | .value n _ _ => name < n
  | .scope n _ _ => name < n

/-- Whether the names increase strictly, here and in every inner scope. -/
def Sorted : Bindings → Prop
  | .nil => True
  | .value name _ rest => rest.Above name ∧ rest.Sorted
  | .scope name inner rest => inner.Sorted ∧ rest.Above name ∧ rest.Sorted

/-- An entry that keeps the listing order: any value, and any sorted scope. -/
def EntrySorted : Entry → Prop
  | .value _ => True
  | .scope inner => inner.Sorted

theorem sorted_nil : nil.Sorted := trivial

theorem above_cons {name bound : String} {entry : Entry} {rest : Bindings}
    (h : name < bound) : (cons bound entry rest).Above name := by
  cases entry <;> exact h

theorem sorted_cons {name : String} {entry : Entry} {rest : Bindings}
    (hentry : EntrySorted entry) (habove : rest.Above name) (hrest : rest.Sorted) :
    (cons name entry rest).Sorted := by
  cases entry with
  | value v => exact ⟨habove, hrest⟩
  | scope inner => exact ⟨hentry, habove, hrest⟩

theorem Above.trans {a b : String} {bindings : Bindings} (hab : a < b)
    (h : bindings.Above b) : bindings.Above a := by
  cases bindings with
  | nil => trivial
  | value n v rest => exact String.lt_trans hab h
  | scope n inner rest => exact String.lt_trans hab h

private theorem lt_of_not_lt_of_ne {a b : String} (hlt : ¬ a < b) (hne : a ≠ b) : b < a := by
  rcases Std.le_iff_lt_or_eq.mp (Std.not_lt.mp hlt) with h | h
  · exact h
  · exact absurd h.symm hne

theorem above_put {name bound : String} {entry : Entry} {bindings : Bindings}
    (h : bindings.Above name) (hlt : name < bound) : (bindings.put bound entry).Above name := by
  cases bindings with
  | nil => exact above_cons hlt
  | value n v rest =>
      unfold put
      split
      · exact above_cons hlt
      · split
        · exact above_cons hlt
        · exact h
  | scope n inner rest =>
      unfold put
      split
      · exact above_cons hlt
      · split
        · exact above_cons hlt
        · exact h

theorem sorted_put {name : String} {entry : Entry} (hentry : EntrySorted entry)
    {bindings : Bindings} (h : bindings.Sorted) : (bindings.put name entry).Sorted := by
  induction bindings with
  | nil => exact sorted_cons hentry trivial trivial
  | value n v rest ih =>
      unfold put
      split
      · exact sorted_cons hentry (by assumption) h
      · split
        · rename_i heq
          exact sorted_cons hentry (heq ▸ h.1) h.2
        · rename_i hlt hne
          exact ⟨above_put h.1 (lt_of_not_lt_of_ne hlt hne), ih h.2⟩
  | scope n inner rest _ ih =>
      unfold put
      split
      · exact sorted_cons hentry (by assumption) h
      · split
        · rename_i heq
          exact sorted_cons hentry (heq ▸ h.2.1) h.2.2
        · rename_i hlt hne
          exact ⟨h.1, above_put h.2.1 (lt_of_not_lt_of_ne hlt hne), ih h.2.2⟩

theorem sorted_put_value (name : String) (v : Value) {bindings : Bindings}
    (h : bindings.Sorted) : (bindings.put name (.value v)).Sorted :=
  have hentry : EntrySorted (.value v) := trivial
  sorted_put hentry h

theorem sorted_put_scope (name : String) {inner bindings : Bindings}
    (hinner : inner.Sorted) (h : bindings.Sorted) : (bindings.put name (.scope inner)).Sorted :=
  have hentry : EntrySorted (.scope inner) := hinner
  sorted_put hentry h

theorem entrySorted_of_find? {name : String} {entry : Entry} {bindings : Bindings}
    (h : bindings.Sorted) (hfind : bindings.find? name = some entry) : EntrySorted entry := by
  induction bindings with
  | nil => simp [find?] at hfind
  | value n v rest ih =>
      simp only [find?] at hfind
      split at hfind
      · cases hfind; trivial
      · exact ih h.2 hfind
  | scope n inner rest _ ih =>
      simp only [find?] at hfind
      split at hfind
      · cases hfind; exact h.1
      · exact ih h.2.2 hfind

theorem sorted_inner {name : String} {bindings : Bindings} (h : bindings.Sorted) :
    (bindings.inner name).Sorted := by
  unfold inner
  split
  · rename_i hfind
    exact entrySorted_of_find? h hfind
  · trivial

theorem sorted_set (path : List String) (v : Value) {bindings : Bindings} (h : bindings.Sorted) :
    (bindings.set path v).Sorted := by
  induction path generalizing bindings with
  | nil => exact h
  | cons name path ih =>
      cases path with
      | nil => exact sorted_put_value name v h
      | cons next path => exact sorted_put_scope name (ih (sorted_inner h)) h

theorem sorted_merge {base incoming : Bindings} (hbase : base.Sorted)
    (hincoming : incoming.Sorted) : (base.merge incoming).Sorted := by
  induction incoming generalizing base with
  | nil => exact hbase
  | value name v rest ih => exact ih (sorted_put_value name v hbase) hincoming.2
  | scope name inner rest ihInner ihRest =>
      unfold merge
      split
      · rename_i existing hfind
        have hexisting : existing.Sorted := entrySorted_of_find? hbase hfind
        exact ihRest (sorted_put_scope name (ihInner hexisting hincoming.1) hbase) hincoming.2.2
      · exact ihRest (sorted_put_scope name hincoming.1 hbase) hincoming.2.2

end Bindings

end Narrative
