import Mathlib.Data.List.Nodup
import Mathlib.Data.List.Pairwise
import Narrative.Proofs.Graph.Lookup

/-!
What the outline indexes answer. Each of them is a search through the walk of the
outline, of which the first hit counts. The walk comes to every entry once as the topmost
one or as a child of another, so where no id occurs twice the entry with a given child
is the only one.
-/

namespace Narrative

namespace Outline

/-- What a walk comes to are the pending outlines and the children of what it comes to. -/
theorem perm_walkPending {left : Nat} {pending : List Outline} (h : sizeOfAll pending ≤ left) :
    (walkPending left pending).Perm
      (pending ++ (walkPending left pending).flatMap Outline.children) := by
  refine walkPending_induction
    (motive := fun pending walked => walked.Perm (pending ++ walked.flatMap Outline.children))
    .nil ?_ h
  intro id children pending walked hwalked
  -- The walk puts the children of its first entry before the pending outlines.
  rw [List.flatMap_cons, List.cons_append, Outline.children, ← List.append_assoc]
  exact (hwalked.trans (List.perm_append_comm.append_right _)).cons _

theorem perm_walk (outline : Outline) :
    outline.walk.Perm (outline :: outline.walk.flatMap Outline.children) :=
  perm_walkPending (sizeOfAll_singleton_le outline)

variable {outline x y c d : Outline}

/-- Where no id occurs twice, entries with children of the same id are the same. -/
theorem eq_of_mem_children (h : (outline.walk.map Outline.id).Nodup) (hx : x ∈ outline.walk)
    (hy : y ∈ outline.walk) (hc : c ∈ x.children) (hd : d ∈ y.children) (hid : c.id = d.id) :
    x = y := by
  have hchildren : (outline.walk.flatMap fun e => e.children.map Outline.id).Nodup := by
    have hall := ((perm_walk outline).map Outline.id).nodup_iff.mp h
    rw [List.map_cons, List.nodup_cons, List.map_flatMap] at hall
    exact hall.2
  have happart := (List.nodup_flatMap.mp hchildren).2
  have : Std.Symm (Function.onFun List.Disjoint fun e : Outline => e.children.map Outline.id) :=
    ⟨fun _ _ hxy _ hy hx => hxy hx hy⟩
  by_contra hne
  exact happart.forall hx hy hne (List.mem_map_of_mem hc) (hid ▸ List.mem_map_of_mem hd)

theorem mem_of_find?_child {entries : List Outline} {id : String}
    (h : (entries.find? fun entry => entry.children.any fun child => child.id = id) = some x) :
    x ∈ entries ∧ ∃ c ∈ x.children, c.id = id := by
  have hany := List.find?_some h
  simp only [List.any_eq_true, decide_eq_true_eq] at hany
  exact ⟨List.mem_of_find?_eq_some h, hany⟩

/-- Where no id occurs twice, the first entry with a child of some id is the only one. -/
theorem find?_child_eq_some (h : (outline.walk.map Outline.id).Nodup) (hx : x ∈ outline.walk)
    (hc : c ∈ x.children) :
    (outline.walk.find? fun entry => entry.children.any fun child => child.id = c.id) = some x := by
  cases hfirst : outline.walk.find? fun entry =>
      entry.children.any fun child => child.id = c.id with
  | none =>
      have hnone := List.find?_eq_none.mp hfirst x hx
      simp only [List.any_eq_true, decide_eq_true_eq] at hnone
      exact absurd ⟨c, hc, rfl⟩ hnone
  | some first =>
      obtain ⟨hmem, d, hd, hid⟩ := mem_of_find?_child hfirst
      rw [eq_of_mem_children h hmem hx hd hc hid]

end Outline

namespace Graph

/-- An insertion that keeps what is there answers with the old entry where there is one. -/
theorem getElem?_insertIfNew {β : Type} (index : Std.TreeMap String β) (key id : String)
    (value : β) : (index.insertIfNew key value)[id]? =
      index[id]?.or (if key = id then some value else none) := by
  rw [Std.TreeMap.getElem?_insertIfNew]
  by_cases hid : key = id
  · subst hid
    by_cases hmem : key ∈ index <;> simp [hmem]
  · simp [hid]

/-- The outline index answers with the first entry of an id. -/
theorem getElem?_indexEntries (entries : List Outline) (id : String) :
    (indexEntries entries)[id]? = entries.find? fun entry => entry.id = id := by
  have hfold (index : Std.TreeMap String Outline) :
      (entries.foldl (fun index entry => index.insertIfNew entry.id entry) index)[id]? =
        index[id]?.or (entries.find? fun entry => entry.id = id) := by
    induction entries generalizing index with
    | nil => simp
    | cons entry entries ih =>
        rw [List.foldl_cons, ih, getElem?_insertIfNew, Option.or_assoc, List.find?_cons]
        by_cases hid : entry.id = id <;> simp [hid]
  simpa [indexEntries] using hfold ∅

/-- The parent index answers with the id of the first entry that has a child of an id. -/
theorem getElem?_indexParents (entries : List Outline) (id : String) :
    (indexParents entries)[id]? =
      (entries.find? fun entry => entry.children.any fun child => child.id = id).map
        Outline.id := by
  have hchildren (parent : String) (children : List Outline) (index : Std.TreeMap String String) :
      (children.foldl (fun index child => index.insertIfNew child.id parent) index)[id]? =
        index[id]?.or (if children.any fun child => child.id = id then some parent else none) := by
    induction children generalizing index with
    | nil => simp
    | cons child children ih =>
        rw [List.foldl_cons, ih, getElem?_insertIfNew, Option.or_assoc, List.any_cons]
        by_cases hid : child.id = id <;> simp [hid]
  have hfold (index : Std.TreeMap String String) :
      (entries.foldl (fun index entry =>
          entry.children.foldl (fun index child => index.insertIfNew child.id entry.id) index)
        index)[id]? =
        index[id]?.or ((entries.find? fun entry =>
          entry.children.any fun child => child.id = id).map Outline.id) := by
    induction entries generalizing index with
    | nil => simp
    | cons entry entries ih =>
        rw [List.foldl_cons, ih, hchildren, Option.or_assoc, List.find?_cons]
        cases hany : entry.children.any fun child => child.id = id <;> simp
  simpa [indexParents] using hfold ∅

variable {document : Document} {g : Graph} {n : Node} {id : String}

/-- The first child of a node is a child of an outline entry of the node. -/
theorem exists_entry_of_firstChild? (h : ofDocument document = .ok g) {child : Node}
    (hchild : g.firstChild? n = some child) :
    ∃ entry ∈ document.outline.walk, entry.id = n.id ∧
      ∃ c ∈ entry.children, g.node? c.id = some child := by
  unfold firstChild? at hchild
  rw [entryIndex_eq h, getElem?_indexEntries] at hchild
  split at hchild
  · rename_i entry hentry
    refine ⟨entry, List.mem_of_find?_eq_some hentry, by simpa using List.find?_some hentry, ?_⟩
    exact List.exists_of_findSome?_eq_some hchild
  · cases hchild

/-- The parent of a node: that of the first entry with a child of the node's id, if it is a
node, and otherwise the one that the node refers to. -/
theorem parent?_eq (h : ofDocument document = .ok g) (id : String) :
    g.parent? id =
      (((document.outline.walk.find? fun entry =>
          entry.children.any fun child => child.id = id).bind fun entry => g.node? entry.id).or
        ((g.node? id).bind fun n => n.parent.bind g.node?)) := by
  unfold parent?
  rw [parentIndex_eq h, getElem?_indexParents]
  cases document.outline.walk.find? fun entry =>
      entry.children.any fun child => child.id = id with
  | none => rfl
  | some entry =>
      simp only [Option.map_some, Option.bind_some]
      cases g.node? entry.id <;> rfl

end Graph

end Narrative
