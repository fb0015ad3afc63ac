/-!
The containment outline of a document: entries with their children in authoring
order. An entry may stand for a node, a package or a folder; ids may repeat.
-/

namespace Narrative

/-- An entry of the outline with the entries it contains. -/
inductive Outline where
  | entry (id : String) (children : List Outline)

namespace Outline

def id : Outline → String
  | .entry id _ => id

def children : Outline → List Outline
  | .entry _ children => children

instance : Inhabited Outline := ⟨.entry "" []⟩

mutual

/-- The number of entries in an outline, the topmost one included. -/
def size : Outline → Nat
  | .entry _ children => sizeOfAll children + 1

def sizeOfAll : List Outline → Nat
  | [] => 0
  | outline :: outlines => outline.size + sizeOfAll outlines

end

/-- The first entries of the pending outlines, each before the entries it contains
and those before the outlines that follow. The outlines still to be walked are kept
as a stack. -/
def walkPending : Nat → List Outline → List Outline
  | 0, _ => []
  | _ + 1, [] => []
  | left + 1, .entry id children :: pending =>
    .entry id children :: walkPending left (children ++ pending)

/-- Every entry of an outline, depth first: the walk takes as many steps as there
are entries. -/
def walk (outline : Outline) : List Outline :=
  walkPending outline.size [outline]

theorem sizeOfAll_append (first second : List Outline) :
    sizeOfAll (first ++ second) = sizeOfAll first + sizeOfAll second := by
  induction first with
  | nil => simp [sizeOfAll]
  | cons outline outlines ih => simp [sizeOfAll, ih, Nat.add_assoc]

/-- What is true of walks over no outlines, and of a walk over an entry and further outlines if
it is true of the walk over its children and these, is true of every walk with enough steps. -/
theorem walkPending_induction {motive : List Outline → List Outline → Prop} (nil : motive [] [])
    (entry : ∀ id children pending walked, motive (children ++ pending) walked →
      motive (.entry id children :: pending) (.entry id children :: walked))
    {left : Nat} {pending : List Outline} (h : sizeOfAll pending ≤ left) :
    motive pending (walkPending left pending) := by
  induction left generalizing pending with
  | zero =>
      cases pending with
      | nil => exact nil
      | cons outline pending =>
          cases outline
          simp [sizeOfAll, size] at h
  | succ left ih =>
      cases pending with
      | nil => exact nil
      | cons outline pending =>
          obtain ⟨id, children⟩ := outline
          have hrest : sizeOfAll (children ++ pending) ≤ left := by
            rw [sizeOfAll_append]
            simp only [sizeOfAll, size] at h
            omega
          exact entry id children pending _ (ih hrest)

theorem sizeOfAll_singleton_le (outline : Outline) : sizeOfAll [outline] ≤ outline.size := by
  simp [sizeOfAll]

/-- A walk with enough steps left comes to every pending entry. -/
theorem length_walkPending {left : Nat} {pending : List Outline}
    (h : sizeOfAll pending ≤ left) : (walkPending left pending).length = sizeOfAll pending := by
  refine walkPending_induction (motive := fun pending walked => walked.length = sizeOfAll pending)
    rfl ?_ h
  intro id children pending walked hwalked
  rw [List.length_cons, hwalked, sizeOfAll_append]
  simp only [sizeOfAll, size]
  omega

theorem length_walk (outline : Outline) : outline.walk.length = outline.size := by
  simpa [walk, sizeOfAll] using length_walkPending (sizeOfAll_singleton_le outline)

end Outline

end Narrative
