import Mathlib.Data.List.Induction
import Narrative.Proofs.Text.ByteOrder
import Narrative.Proofs.Text.Split
import Narrative.Proofs.Variables.Everywhere

/-!
The listing of a tree of variables. Paths are put together from names with dots between, so the
listing says which names they are made of only if no name is empty or has a dot in it. What is
said of it is said first of the paths themselves, name by name, and then carried over: cutting the
dotted paths at their dots gives the paths back.
-/

namespace Narrative

/-- Whether a name is found again in a dotted path: it is not empty, and has no dot in it. -/
def IsSegment (name : String) : Prop :=
  name ≠ "" ∧ '.' ∉ name.toList

instance : DecidablePred IsSegment := fun name =>
  inferInstanceAs (Decidable (name ≠ "" ∧ '.' ∉ name.toList))

/-- The pieces of a text between its dots. -/
def segments (dotted : String) : List String :=
  (Text.split '.' dotted.toList).map String.ofList

theorem segments_intercalate {path : List String} (hne : path ≠ [])
    (h : ∀ name ∈ path, IsSegment name) : segments (".".intercalate path) = path := by
  have hpieces : ∀ piece ∈ path.map String.toList, '.' ∉ piece := by
    intro piece hmem
    obtain ⟨name, hname, rfl⟩ := List.mem_map.mp hmem
    exact (h name hname).2
  have hcut : Text.split '.' (['.'].intercalate (path.map String.toList)) =
      path.map String.toList := by
    rw [Text.split_eq_splitOn, List.splitOn_intercalate '.' hpieces (by simpa using hne)]
  rw [segments, String.toList_intercalate]
  change (Text.split '.' (['.'].intercalate _)).map String.ofList = path
  rw [hcut, List.map_map]
  simp [Function.comp_def]

/-- The smaller of two paths has the smaller bytes, name by name. -/
theorem map_bytes_lt {path other : List String} (h : path < other) :
    path.map Text.bytes < other.map Text.bytes := by
  induction h with
  | nil => exact List.nil_lt_cons _ _
  | rel hlt => exact List.Lex.rel (Text.bytes_lt_bytes hlt)
  | cons _ ih => exact List.Lex.cons ih

namespace Bindings

variable {name : String} {b : Bindings} {path other : List String} {v w : Value}

/-- Every value with its path, in listing order. -/
def leafPaths : Bindings → List (List String × Value)
  | .nil => []
  | .value name v rest => ([name], v) :: rest.leafPaths
  | .scope name inner rest =>
    inner.leafPaths.map (fun leaf => (name :: leaf.1, leaf.2)) ++ rest.leafPaths

section Paths

/-- The values that are listed are those that can be looked up, each along its path. -/
theorem mem_leafPaths_iff (h : b.Sorted) : (path, v) ∈ b.leafPaths ↔ b.get? path = some v := by
  rw [get?_eq_some_iff]
  -- no path into the rest of a listing begins with the first name, so each path leads one way only
  induction b generalizing path with
  | nil => cases path <;> simp [leafPaths, held?, find?]
  | value n w rest ih =>
      cases path with
      | nil => simp [leafPaths, ih h.2, held?]
      | cons first path =>
          by_cases hname : n = first
          · subst hname
            have hnone := find?_eq_none_of_above h.1 h.2
            by_cases hpath : path = []
            · simp [leafPaths, ih h.2, held?, find?, hnone, hpath, eq_comm]
            · simp [leafPaths, ih h.2, held?, find?, hnone, hpath]
          · simp [leafPaths, ih h.2, held?, find?, hname, Ne.symm hname]
  | scope n inner rest ihInner ihRest =>
      cases path with
      | nil => simp [leafPaths, ihRest h.2.2, held?]
      | cons first path =>
          by_cases hname : n = first
          · subst hname
            have hnone := find?_eq_none_of_above h.2.1 h.2.2
            simp [leafPaths, ihInner h.1, ihRest h.2.2, held?, find?, hnone]
          · simp [leafPaths, ihRest h.2.2, held?, find?, hname]

/-- What is listed after a name begins with a name that stands after it. -/
theorem exists_lt_of_mem_leafPaths (habove : b.Above name) (h : b.Sorted)
    {leaf : List String × Value} (hmem : leaf ∈ b.leafPaths) :
    ∃ first below, leaf.1 = first :: below ∧ name < first := by
  induction b with
  | nil => cases hmem
  | value n v rest ih =>
      rcases List.mem_cons.mp hmem with rfl | hmem
      · exact ⟨n, [], rfl, habove⟩
      · exact ih (h.1.trans habove) h.2 hmem
  | scope n inner rest _ ih =>
      rcases List.mem_append.mp hmem with hmem | hmem
      · obtain ⟨below, -, rfl⟩ := List.mem_map.mp hmem
        exact ⟨n, below.1, rfl, habove⟩
      · exact ih (h.2.1.trans habove) h.2.2 hmem

/-- The paths increase strictly, name by name. -/
theorem pairwise_leafPaths (h : b.Sorted) : b.leafPaths.Pairwise fun x y => x.1 < y.1 := by
  induction b with
  | nil => exact .nil
  | value n v rest ih =>
      refine List.pairwise_cons.mpr ⟨?_, ih h.2⟩
      intro leaf hmem
      obtain ⟨first, below, hleaf, hlt⟩ := exists_lt_of_mem_leafPaths h.1 h.2 hmem
      rw [hleaf]
      exact List.Lex.rel hlt
  | scope n inner rest ihInner ihRest =>
      obtain ⟨hinner, habove, hrest⟩ := h
      refine List.pairwise_append.mpr ⟨?_, ihRest hrest, ?_⟩
      · exact List.pairwise_map.mpr ((ihInner hinner).imp List.Lex.cons)
      · intro leaf hmem other hother
        obtain ⟨within, -, rfl⟩ := List.mem_map.mp hmem
        obtain ⟨first, below, hleaf, hlt⟩ := exists_lt_of_mem_leafPaths habove hrest hother
        rw [hleaf]
        exact List.Lex.rel hlt

/-- No value stands below another one. -/
theorem not_prefix_of_get? (hpath : b.get? path = some v) (hother : b.get? other = some w)
    (hne : path ≠ other) : ¬ path <+: other := by
  rintro ⟨below, rfl⟩
  cases below with
  | nil => simp at hne
  | cons first below =>
      have hscope := held?_eq_scope_of_append (get?_eq_some_iff.mp hother)
      rw [get?_eq_some_iff.mp hpath] at hscope
      cases hscope

end Paths

section Dotted

/-- Whether every name, at every level, is found again in a dotted path. -/
def WellNamed (b : Bindings) : Prop :=
  b.Everywhere fun name _ => IsSegment name

instance (b : Bindings) : Decidable b.WellNamed :=
  decidableEverywhere _ b

theorem leavesUnder_eq (path : String) (b : Bindings) :
    b.leavesUnder path = b.leafPaths.map fun leaf => (leaf.1.foldl dotted path, leaf.2) := by
  induction b generalizing path with
  | nil => rfl
  | value name v rest ih => simp [leavesUnder, leafPaths, ih]
  | scope name inner rest ihInner ihRest =>
      simp [leavesUnder, leafPaths, ihInner, ihRest, Function.comp_def]

theorem foldl_dotted {above : String} (h : above ≠ "") (path : List String) :
    path.foldl dotted above = ".".intercalate (above :: path) := by
  induction path generalizing above with
  | nil => simp
  | cons name path ih =>
      have hlonger : dotted above name = above ++ "." ++ name := by simp [dotted, h]
      rw [List.foldl_cons, hlonger, ih (by simp), String.intercalate_cons_append,
        String.intercalate_cons_cons]

theorem foldl_dotted_empty (h : ∀ name ∈ path, IsSegment name) :
    path.foldl dotted "" = ".".intercalate path := by
  cases path with
  | nil => simp
  | cons name path => exact foldl_dotted (h name List.mem_cons_self).1 path

theorem isSegment_of_get? (h : b.WellNamed) (hget : b.get? path = some v) :
    ∀ name ∈ path, IsSegment name := by
  have hheld := get?_eq_some_iff.mp hget
  clear hget
  induction path generalizing b with
  | nil => simp
  | cons first path ih =>
      cases hfind : b.find? first with
      | none => simp [held?, hfind] at hheld
      | some entry =>
          obtain ⟨hfirst, hinside⟩ := everywhere_of_find? h hfind
          refine List.forall_mem_cons.mpr ⟨hfirst, ?_⟩
          cases entry with
          | value w =>
              by_cases hpath : path = []
              · simp [hpath]
              · simp [held?, hfind, hpath] at hheld
          | scope inner => exact ih hinside (held?_of_scope hfind path ▸ hheld)

end Dotted

end Bindings

namespace Scope

variable {s : Scope} {path : List String} {v : Value}

/-- Whether every name, at every level, is found again in a dotted path. -/
def WellNamed (s : Scope) : Prop := s.bindings.WellNamed

instance (s : Scope) : Decidable s.WellNamed :=
  inferInstanceAs (Decidable s.bindings.WellNamed)

/-- The scope that comes from an empty one when values are set in turn, each at its path. -/
def ofValues (values : List (List String × Value)) : Scope :=
  values.foldl (fun s leaf => s.set leaf.1 leaf.2) empty

theorem ofValues_concat (values : List (List String × Value)) (leaf : List String × Value) :
    ofValues (values ++ [leaf]) = (ofValues values).set leaf.1 leaf.2 := by
  simp [ofValues]

/-- What is bound when values are set: the names of their paths, to no empty scope. -/
theorem everywhere_ofValues {P : String → Entry → Prop} {values : List (List String × Value)}
    (h : ∀ leaf ∈ values, ∀ name ∈ leaf.1, ∀ entry, entry ≠ .scope .nil → P name entry) :
    (ofValues values).bindings.Everywhere P := by
  induction values using List.reverseRecOn with
  | nil => trivial
  | append_singleton values leaf ih =>
      rw [ofValues_concat]
      exact Bindings.everywhere_set leaf.2 (h leaf (by simp))
        (ih fun earlier hmem => h earlier (List.mem_append_left _ hmem))

theorem populated_ofValues (values : List (List String × Value)) : (ofValues values).Populated :=
  everywhere_ofValues fun _ _ _ _ _ hentry => hentry

/-- Values that are set at paths of which none begins another are all there, and nothing else. -/
theorem get?_ofValues_iff {values : List (List String × Value)}
    (hne : ∀ leaf ∈ values, leaf.1 ≠ [])
    (hapart : values.Pairwise fun x y => ¬ x.1 <+: y.1 ∧ ¬ y.1 <+: x.1) :
    (ofValues values).get? path = some v ↔ (path, v) ∈ values := by
  -- by induction from the end, where the value stands that is set last
  induction values using List.reverseRecOn with
  | nil => simp [ofValues, get?_empty]
  | append_singleton values leaf ih =>
      obtain ⟨hvalues, -, hleaf⟩ := List.pairwise_append.mp hapart
      have hbefore := ih (fun earlier hmem => hne earlier (List.mem_append_left _ hmem)) hvalues
      have hearlier : (path, v) ∈ values → ¬ path <+: leaf.1 ∧ ¬ leaf.1 <+: path :=
        fun hmem => hleaf _ hmem leaf List.mem_cons_self
      rw [ofValues_concat, get?_set _ (hne leaf (by simp)), List.mem_append, List.mem_singleton]
      split_ifs with hpath hrelated
      · subst hpath
        have hnew : (leaf.1, v) ∉ values := fun hmem => (hearlier hmem).1 List.prefix_rfl
        simp [hnew, Prod.ext_iff, eq_comm]
      · have hnew : (path, v) ∉ values := fun hmem => not_or.mpr (hearlier hmem) hrelated
        simp [hnew, Prod.ext_iff, hpath]
      · simp [hbefore, Prod.ext_iff, hpath]

/-- Setting the values of a scope, each at its path, builds it up again, but for the scopes that
have no value in them. -/
theorem ofValues_leafPaths (s : Scope) : ofValues s.bindings.leafPaths = s.pruned := by
  have hmem {leaf : List String × Value} :
      leaf ∈ s.bindings.leafPaths ↔ s.get? leaf.1 = some leaf.2 :=
    Bindings.mem_leafPaths_iff s.sorted
  have hne : ∀ leaf ∈ s.bindings.leafPaths, leaf.1 ≠ [] := by
    rintro leaf hleaf hnil
    have hget := hmem.mp hleaf
    rw [hnil] at hget
    cases hget
  have hapart : s.bindings.leafPaths.Pairwise fun x y => ¬ x.1 <+: y.1 ∧ ¬ y.1 <+: x.1 := by
    apply (Bindings.pairwise_leafPaths s.sorted).imp_of_mem
    intro x y hx hy hlt
    have hdiffer : x.1 ≠ y.1 := fun heq => List.lt_irrefl _ (heq ▸ hlt)
    exact ⟨Bindings.not_prefix_of_get? (hmem.mp hx) (hmem.mp hy) hdiffer,
      Bindings.not_prefix_of_get? (hmem.mp hy) (hmem.mp hx) hdiffer.symm⟩
  -- neither has a scope that binds nothing, so their values settle that they are the same
  apply ext
  apply Bindings.eq_of_get?_eq (ofValues _).sorted s.pruned.sorted (populated_ofValues _)
    (Bindings.populated_pruned s.bindings)
  intro path
  apply Option.ext
  intro v
  calc (ofValues s.bindings.leafPaths).get? path = some v
    _ ↔ (path, v) ∈ s.bindings.leafPaths := get?_ofValues_iff hne hapart
    _ ↔ s.get? path = some v := hmem
    _ ↔ s.pruned.get? path = some v := by rw [get?, get?, pruned, Bindings.get?_pruned s.sorted]

section Leaves

variable (h : s.WellNamed)
include h

theorem leaves_eq :
    s.leaves = s.bindings.leafPaths.map fun leaf => (".".intercalate leaf.1, leaf.2) := by
  rw [leaves, Bindings.leavesUnder_eq]
  apply List.map_congr_left
  intro leaf hmem
  have hget := (Bindings.mem_leafPaths_iff s.sorted).mp hmem
  rw [Bindings.foldl_dotted_empty (Bindings.isSegment_of_get? h hget)]

/-- The path of a value is found again between the dots. -/
theorem segments_of_get? (hget : s.get? path = some v) :
    segments (".".intercalate path) = path := by
  apply segments_intercalate
  · rintro rfl
    cases hget
  · exact Bindings.isSegment_of_get? h hget

/-- The listing with its names cut at their dots lists the paths. -/
theorem map_segments_leaves :
    s.leaves.map (fun leaf => (segments leaf.1, leaf.2)) = s.bindings.leafPaths := by
  rw [leaves_eq h, List.map_map]
  calc s.bindings.leafPaths.map _ = s.bindings.leafPaths.map id := by
        apply List.map_congr_left
        intro leaf hmem
        have hget := (Bindings.mem_leafPaths_iff s.sorted).mp hmem
        simp [segments_of_get? h hget]
    _ = s.bindings.leafPaths := List.map_id _

theorem mem_leaves_iff {leaf : String × Value} :
    leaf ∈ s.leaves ↔ ∃ path, s.get? path = some leaf.2 ∧ leaf.1 = ".".intercalate path := by
  rw [leaves_eq h, List.mem_map]
  constructor
  · rintro ⟨below, hmem, rfl⟩
    exact ⟨below.1, (Bindings.mem_leafPaths_iff s.sorted).mp hmem, rfl⟩
  · rintro ⟨path, hget, hname⟩
    exact ⟨(path, leaf.2), (Bindings.mem_leafPaths_iff s.sorted).mpr hget, by rw [← hname]⟩

theorem pairwise_leaves :
    s.leaves.Pairwise fun x y => segments x.1 < segments y.1 := by
  have hpaths := Bindings.pairwise_leafPaths s.sorted
  rwa [← map_segments_leaves h, List.pairwise_map] at hpaths

end Leaves

/-- Whether the listing of a scope says just what its values are, and in which order. -/
structure ListsFaithfully (s : Scope) : Prop where
  /-- A value is listed once, under its path with dots between the names. -/
  once : ∀ path v, s.get? path = some v → s.leaves.count (".".intercalate path, v) = 1
  /-- What is listed is the value of some path. -/
  only : ∀ leaf ∈ s.leaves, ∃ path, s.get? path = some leaf.2 ∧ leaf.1 = ".".intercalate path
  distinct : (s.leaves.map Prod.fst).Nodup
  segments_eq : ∀ path v, s.get? path = some v → segments (".".intercalate path) = path
  /-- The order is that of the bytes of the names, one name after another. -/
  increasing : s.leaves.Pairwise fun x y =>
    (segments x.1).map Text.bytes < (segments y.1).map Text.bytes
  rebuilt : ofValues (s.leaves.map fun leaf => (segments leaf.1, leaf.2)) = s.pruned

theorem listsFaithfully_of_wellNamed (h : s.WellNamed) : s.ListsFaithfully := by
  have hincreasing := pairwise_leaves h
  have hdistinct : (s.leaves.map Prod.fst).Nodup := by
    apply List.pairwise_map.mpr
    apply hincreasing.imp
    intro x y hlt heq
    exact List.lt_irrefl _ (heq ▸ hlt)
  refine
    { once := ?_
      only := fun leaf hmem => (mem_leaves_iff h).mp hmem
      distinct := hdistinct
      segments_eq := fun path v hget => segments_of_get? h hget
      increasing := hincreasing.imp map_bytes_lt
      rebuilt := by rw [map_segments_leaves h, ofValues_leafPaths] }
  intro path v hget
  exact List.count_eq_one_of_mem (List.Nodup.of_map _ hdistinct)
    ((mem_leaves_iff h).mpr ⟨path, hget, rfl⟩)

end Scope

end Narrative
