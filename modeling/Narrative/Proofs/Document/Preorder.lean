import Narrative.Document.Outline

/-!
The order of an outline. An entry comes before the entries it contains, and these come in
authoring order, each with all that it contains before the next one. The walk of an outline,
which has a stack of pending outlines for this, comes to the entries in the same order. Two entries
of an outline may well be equal, so their order is said of their paths. Main statement: the stack
runs empty, and the walk has come to every path once, in this order.
-/

namespace Narrative.Outline

mutual

/-- The entries of an outline, the topmost one first and then those of each child. -/
def preorder : Outline → List Outline
  | .entry id children => .entry id children :: preorderAll children

def preorderAll : List Outline → List Outline
  | [] => []
  | outline :: outlines => outline.preorder ++ preorderAll outlines

end

theorem preorderAll_eq_flatMap (outlines : List Outline) :
    preorderAll outlines = outlines.flatMap preorder := by
  induction outlines with
  | nil => rfl
  | cons outline outlines ih => rw [preorderAll, ih, List.flatMap_cons]

theorem preorder_entry (id : String) (children : List Outline) :
    (entry id children).preorder = entry id children :: children.flatMap preorder := by
  rw [preorder, preorderAll_eq_flatMap]

/-- A walk with enough steps left comes to the pending outlines one after another, to each of
them in full. -/
theorem walkPending_eq_flatMap {left : Nat} {pending : List Outline}
    (h : sizeOfAll pending ≤ left) : walkPending left pending = pending.flatMap preorder := by
  refine walkPending_induction
    (motive := fun pending walked => walked = pending.flatMap preorder) rfl ?_ h
  intro id children pending walked hwalked
  rw [hwalked, List.flatMap_append, List.flatMap_cons, preorder_entry, List.cons_append]

theorem walk_eq_preorder (outline : Outline) : outline.walk = outline.preorder := by
  rw [walk, walkPending_eq_flatMap (sizeOfAll_singleton_le outline), List.flatMap_singleton]

theorem preorder_eq_cons (outline : Outline) :
    outline.preorder = outline :: outline.children.flatMap preorder := by
  cases outline with
  | entry id children => exact preorder_entry id children

section Stack

/-- What is listed while a stack of outlines, the last of them on top, is worked off until it is
empty: the topmost entry, whose children go on the stack in its place, the last child first. -/
inductive Unstacks : List Outline → List Outline → Prop where
  | done : Unstacks [] []
  | next {stack walked : List Outline} {top : Outline}
      (rest : Unstacks (stack ++ top.children.reverse) walked) :
      Unstacks (stack ++ [top]) (top :: walked)

theorem eq_flatMap_of_unstacks {stack walked : List Outline} (h : Unstacks stack walked) :
    walked = stack.reverse.flatMap preorder := by
  induction h with
  | done => rfl
  | @next stack walked top _ ih =>
      rw [ih, List.reverse_append, List.reverse_reverse, List.reverse_concat, List.flatMap_cons,
        preorder_eq_cons top, List.flatMap_append, List.cons_append]

/-- The walk works its stack off. -/
theorem unstacks_walk (outline : Outline) : Unstacks [outline] outline.walk := by
  refine walkPending_induction (motive := fun pending walked => Unstacks pending.reverse walked)
    .done ?_ (sizeOfAll_singleton_le outline)
  intro id children pending walked hwalked
  rw [List.reverse_append] at hwalked
  rw [List.reverse_cons]
  exact .next hwalked

theorem unstacks_iff {outline : Outline} {walked : List Outline} :
    Unstacks [outline] walked ↔ walked = outline.walk := by
  constructor
  · intro h
    rw [eq_flatMap_of_unstacks h, walk_eq_preorder, List.reverse_singleton, List.flatMap_singleton]
  · rintro rfl
    exact unstacks_walk outline

end Stack

section Paths

/-- The entry at the end of a path. Each step goes to a child by its place among its siblings. -/
def at? (outline : Outline) : List Nat → Option Outline
  | [] => some outline
  | place :: path => outline.children[place]?.bind fun child => child.at? path

mutual

/-- The paths of an outline, that of an entry before those of its children. -/
def paths : Outline → List (List Nat)
  | .entry _ children => [] :: pathsFrom 0 children

/-- The paths of outlines that are children from some place on. -/
def pathsFrom : Nat → List Outline → List (List Nat)
  | _, [] => []
  | place, outline :: outlines => outline.paths.map (place :: ·) ++ pathsFrom (place + 1) outlines

end

theorem mem_pathsFrom_iff {place : Nat} {outlines : List Outline} {path : List Nat} :
    path ∈ pathsFrom place outlines ↔ ∃ i outline rest,
      outlines[i]? = some outline ∧ rest ∈ outline.paths ∧ path = (place + i) :: rest := by
  induction outlines generalizing place with
  | nil => simp [pathsFrom]
  | cons first outlines ih =>
      have hplace (i : Nat) : place + 1 + i = place + (i + 1) := by omega
      rw [pathsFrom, List.mem_append, List.mem_map, ih]
      constructor
      · rintro (⟨rest, hrest, rfl⟩ | ⟨i, outline, rest, hi, hrest, rfl⟩)
        · exact ⟨0, first, rest, rfl, hrest, rfl⟩
        · exact ⟨i + 1, outline, rest, hi, hrest, by rw [hplace]⟩
      · rintro ⟨i, outline, rest, hi, hrest, rfl⟩
        cases i with
        | zero =>
            cases hi
            exact .inl ⟨rest, hrest, rfl⟩
        | succ i => exact .inr ⟨i, outline, rest, hi, hrest, by rw [hplace]⟩

mutual

/-- The paths are listed in dictionary order. -/
theorem pairwise_paths : ∀ outline : Outline, outline.paths.Pairwise (· < ·)
  | .entry id children => by
      rw [paths, List.pairwise_cons]
      refine ⟨?_, pairwise_pathsFrom 0 children⟩
      intro path hpath
      obtain ⟨i, _, rest, -, -, rfl⟩ := mem_pathsFrom_iff.mp hpath
      exact List.nil_lt_cons (0 + i) rest

theorem pairwise_pathsFrom : ∀ (place : Nat) (outlines : List Outline),
    (pathsFrom place outlines).Pairwise (· < ·)
  | _, [] => .nil
  | place, outline :: outlines => by
      rw [pathsFrom, List.pairwise_append]
      refine ⟨?_, pairwise_pathsFrom (place + 1) outlines, ?_⟩
      · refine (pairwise_paths outline).map (place :: ·) ?_
        exact fun path later hlt => List.cons_lt_cons_self.mpr hlt
      · intro path hpath later hlater
        obtain ⟨rest, -, rfl⟩ := List.mem_map.mp hpath
        obtain ⟨i, _, rest', -, -, rfl⟩ := mem_pathsFrom_iff.mp hlater
        have hplace : place < place + 1 + i := by omega
        exact List.cons_lt_cons_iff.mpr (.inl hplace)

end

mutual

/-- At the paths are the entries, in the same order. -/
theorem map_at?_paths : ∀ outline : Outline,
    outline.paths.map outline.at? = outline.preorder.map some
  | .entry id children => by
      have hchildren := map_at?_pathsFrom (entry id children) 0 children fun i => by
        rw [Nat.zero_add]
        rfl
      rw [paths, preorder, List.map_cons, List.map_cons, hchildren]
      rfl

theorem map_at?_pathsFrom : ∀ (parent : Outline) (place : Nat) (outlines : List Outline),
    (∀ i, parent.children[place + i]? = outlines[i]?) →
      (pathsFrom place outlines).map parent.at? = (preorderAll outlines).map some
  | _, _, [], _ => rfl
  | parent, place, outline :: outlines, h => by
      have hfirst : parent.at? ∘ (place :: ·) = outline.at? := by
        funext path
        have hplace : parent.children[place]? = some outline := h 0
        simp only [Function.comp_apply, at?, hplace, Option.bind_some]
      have hothers := map_at?_pathsFrom parent (place + 1) outlines fun i => by
        rw [Nat.add_right_comm, Nat.add_assoc, h (i + 1)]
        rfl
      rw [pathsFrom, preorderAll, List.map_append, List.map_map, hfirst, map_at?_paths outline,
        hothers, List.map_append]

end

theorem mem_paths_iff {outline : Outline} {path : List Nat} :
    path ∈ outline.paths ↔ (outline.at? path).isSome := by
  constructor
  · intro hpath
    have hentry : outline.at? path ∈ outline.preorder.map some :=
      map_at?_paths outline ▸ List.mem_map_of_mem hpath
    obtain ⟨entry, -, hentry⟩ := List.mem_map.mp hentry
    exact Option.isSome_iff_exists.mpr ⟨entry, hentry.symm⟩
  · intro hentry
    induction path generalizing outline with
    | nil =>
        cases outline
        simp [paths]
    | cons place path ih =>
        obtain ⟨entry, hentry⟩ := Option.isSome_iff_exists.mp hentry
        obtain ⟨child, hchild, hat⟩ := Option.bind_eq_some_iff.mp hentry
        have hpath : path ∈ child.paths := ih (Option.isSome_iff_exists.mpr ⟨entry, hat⟩)
        cases outline with
        | entry id children =>
            rw [paths]
            refine List.mem_cons_of_mem _ (mem_pathsFrom_iff.mpr ?_)
            exact ⟨place, child, path, hchild, hpath, by rw [Nat.zero_add]⟩

end Paths

/-- The walk of an outline works its stack off and lists the topmost entry and then, child after
child, what the walks of the children list. It comes to every path of the outline once and in
dictionary order: to an entry before all that it contains, and to all of this before the entry's
later siblings. -/
theorem walk_in_preorder (outline : Outline) :
    (∀ walked, Unstacks [outline] walked ↔ walked = outline.walk) ∧
    outline.walk = outline.preorder ∧
    outline.walk = outline :: outline.children.flatMap walk ∧
    ∃ listed : List (List Nat), listed.Pairwise (· < ·) ∧
      (∀ path, path ∈ listed ↔ (outline.at? path).isSome) ∧
      listed.map outline.at? = outline.walk.map some := by
  have hwalk : walk = preorder := funext walk_eq_preorder
  refine ⟨fun walked => unstacks_iff, walk_eq_preorder outline, ?_, outline.paths,
    pairwise_paths outline, fun path => mem_paths_iff, ?_⟩
  · rw [hwalk, ← preorder_eq_cons]
  · rw [map_at?_paths, walk_eq_preorder]

end Narrative.Outline
