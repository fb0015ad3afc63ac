import Narrative.Proofs.Pointwise
import Narrative.Proofs.Script.Assignment
import Narrative.Proofs.Script.Reading
import Narrative.Proofs.Variables.Listing

/-!
The listing of what a text assigns. The path of a statement is cut at its dots, and a statement
with an empty name on its path is not read; so what a text assigns can be listed without loss.
Main statement: what the listing of a tree of variables says, and that this goes for every tree
that a text assigns.
-/

namespace Narrative.Script

variable {line : List Char} {lines : List (List Char)} {s : Statement} {said : List Statement}

theorem isSegment_of_mem_pathNames {path : List Char} {name : String} (hmem : name ∈ pathNames path)
    (hne : name ≠ "") : IsSegment name := by
  obtain ⟨piece, hpiece, rfl⟩ := List.mem_map.mp hmem
  refine ⟨hne, ?_⟩
  obtain ⟨before, after, -, -, htrim⟩ := Text.exists_blank_around_trim piece
  have hdot : '.' ∉ piece := Text.notMem_of_mem_split hpiece
  rw [htrim] at hdot
  simp only [List.mem_append, not_or] at hdot
  simpa using hdot.1.2

theorem Statement.isSegment_of_ofLine (h : ofLine line = .ok (some s)) :
    ∀ name ∈ s.path, IsSegment name := by
  obtain ⟨before, rest, -, hpath, hnone, -⟩ := ofTrimmed_eq_ok_iff.mp (ofLine_eq_some_iff.mp h).2
  intro name hmem
  exact isSegment_of_mem_pathNames (hpath ▸ hmem) (fun hempty => hnone (hempty ▸ hmem))

theorem exists_line_of_mem (h : statements lines = .ok said) (hmem : s ∈ said) :
    ∃ line ∈ lines, Statement.ofLine line = .ok (some s) := by
  obtain ⟨results, hresults, rfl⟩ := Outcome.map_eq_ok_iff.mp h
  exact exists_of_forall₂_of_mem (Outcome.mapM_eq_ok_iff.mp hresults)
    (List.reduceOption_mem_iff.mp hmem)

/-- What a text assigns comes from setting the values of its statements in an empty scope. -/
theorem exists_ofValues_of_assignments {text : String} {t : Scope} (h : assignments text = .ok t) :
    ∃ values, t = Scope.ofValues values ∧
      ∀ leaf ∈ values, ∀ name ∈ leaf.1, IsSegment name := by
  rw [assignments_eq] at h
  obtain ⟨said, hsaid, rfl⟩ := Outcome.map_eq_ok_iff.mp h
  refine ⟨said.map fun s => (s.path, s.value), ?_, ?_⟩
  · rw [Scope.ofValues, List.foldl_map]
    rfl
  · intro leaf hmem
    obtain ⟨s, hs, rfl⟩ := List.mem_map.mp hmem
    obtain ⟨line, -, hline⟩ := exists_line_of_mem hsaid hs
    exact Statement.isSegment_of_ofLine hline

/-- A tree of variables with names that are not empty and have no dots is listed faithfully: every
value once, under its dotted path, in the order of the bytes of the names; the dotted paths are all
different, and cut at their dots they build up the tree again, but for the scopes that have no
value in them. What any text assigns is such a tree, and has no empty scopes. -/
theorem listing_faithful :
    (∀ t : Scope, t.WellNamed → t.ListsFaithfully) ∧
    ∀ text t, assignments text = .ok t → t.WellNamed ∧ t.Populated := by
  refine ⟨fun t h => Scope.listsFaithfully_of_wellNamed h, ?_⟩
  intro text t h
  obtain ⟨values, rfl, hnames⟩ := exists_ofValues_of_assignments h
  refine ⟨?_, Scope.populated_ofValues values⟩
  exact Scope.everywhere_ofValues fun leaf hleaf name hname _ _ => hnames leaf hleaf name hname

/-- The door and an attic without anything in it. -/
def house : Scope :=
  Scope.door.merge ⟨.scope "Attic" .nil .nil, trivial, trivial, trivial⟩

/-- The listing of the house builds up the door alone; what the burglar assigns is listed, too. -/
theorem listing_faithful_of_house :
    house.leaves = [("Door.Lock.Key", .text "brass"), ("Door.Open", .bool true)] ∧
    Scope.ofValues (house.leaves.map fun leaf => (segments leaf.1, leaf.2)) = Scope.door ∧
    house ≠ Scope.door ∧
    ∃ gathered, assignments burglary = .ok gathered ∧
      gathered.leaves.count ("Door.Lock", .text "broken") = 1 := by
  have hhouse := listing_faithful.1 house (by decide +kernel)
  refine ⟨by decide +kernel, hhouse.rebuilt.trans (by decide +kernel), by decide +kernel, ?_⟩
  have hread : assignments burglary = .ok _ := rfl
  have hnamed := (listing_faithful.2 burglary _ hread).1
  exact ⟨_, hread, (listing_faithful.1 _ hnamed).once ["Door", "Lock"] _ (by decide +kernel)⟩

end Narrative.Script
