import Mathlib.Data.List.ReduceOption
import Narrative.Proofs.Outcome
import Narrative.Proofs.Variables.Batching
import Narrative.Script.Assignment

/-!
Assignments act like their lines. The lines of a text are gathered into one overlay before the
variables are touched; laid on, it does what its statements do one after another, unless a
statement sets a variable where a later one needs a scope. Main statement: the variables after
a text whose lines can all be read, and the fault of any other text.
-/

namespace Narrative.Scope

variable {gathered : Scope} {path q : List String} {v w : Value}

/-- A value that a scope has after one was set is the one that was set, or was there before. -/
theorem get?_set_cases {s : Scope} (h : (s.set path v).get? q = some w) :
    q = path ∨ s.get? q = some w := by
  by_cases hne : path = []
  · subst hne
    exact .inr h
  · rw [get?_set s hne] at h
    split_ifs at h with hpath
    · exact .inl hpath
    · exact .inr h

/-- A value that is set meets no other in its way but those that stand above it. -/
theorem not_clash_set_empty
    (h : ∀ q w, gathered.get? q = some w → ¬ (q <+: path ∧ q ≠ path)) :
    ¬ gathered.Clash (empty.set path v) := by
  rintro ⟨q, w, hvalue, hscope⟩
  have hne : q ≠ [] := by
    rintro rfl
    cases hvalue
  rw [held?_set_empty] at hscope
  by_cases hpath : q = path
  · simp [hpath, hpath ▸ hne] at hscope
  · have hbegins : q <+: path := by simpa [hpath] using hscope
    exact h q w (get?_eq_some_iff.mpr hvalue) ⟨hbegins, hpath⟩

theorem merge_set (h : ∀ q w, gathered.get? q = some w → ¬ (q <+: path ∧ q ≠ path)) (s : Scope) :
    s.merge (gathered.set path v) = (s.merge gathered).set path v := by
  rw [set_eq_merge gathered, set_eq_merge (s.merge gathered)]
  exact (merge_merge_of_not_clash (not_clash_set_empty h) s).symm

end Narrative.Scope

namespace Narrative.Script

/-- The statements of some lines in their order; lines that say nothing are left out. -/
def statements (lines : List (List Char)) : Except LineError (List Statement) :=
  (lines.mapM Statement.ofLine).map List.reduceOption

/-- A scope after one statement has been carried out on it, whatever its operator. -/
def Statement.setIn (scope : Scope) (s : Statement) : Scope :=
  scope.set s.path s.value

/-- Whether the first of the lines that cannot be read is wrong for the given cause. -/
def FirstFault (lines : List (List Char)) (cause : LineError) : Prop :=
  ∃ before line after, lines = before ++ line :: after ∧
    (∀ earlier ∈ before, ∃ said, Statement.ofLine earlier = .ok said) ∧
    Statement.ofLine line = .error cause

/-- Gathering the statements of some lines is setting their variables in turn. -/
theorem assignmentsFrom_eq (gathered : Scope) (lines : List (List Char)) :
    assignmentsFrom gathered lines =
      (statements lines).map fun said => said.foldl Statement.setIn gathered := by
  induction lines generalizing gathered with
  | nil => rfl
  | cons line lines ih =>
      unfold statements at ih ⊢
      rw [assignmentsFrom, List.mapM_cons]
      cases Statement.ofLine line with
      | error cause => rfl
      | ok said =>
          cases said with
          | none =>
              change assignmentsFrom gathered lines = _
              rw [ih]
              cases lines.mapM Statement.ofLine <;> rfl
          | some s =>
              change assignmentsFrom (gathered.merge (Scope.empty.set s.path s.value)) lines = _
              rw [← Scope.set_eq_merge, ih]
              cases lines.mapM Statement.ofLine <;> rfl

theorem assignments_eq (text : String) :
    assignments text =
      (statements (Text.lines text.toList)).map fun said =>
        said.foldl Statement.setIn Scope.empty :=
  assignmentsFrom_eq Scope.empty _

theorem statements_eq_error_iff {lines : List (List Char)} {cause : LineError} :
    statements lines = .error cause ↔ FirstFault lines cause :=
  Outcome.map_eq_error_iff.trans Outcome.mapM_eq_error_iff

/-- Statements that are gathered and then laid on do what they do one after another, if none of
them, nor anything gathered before, has a value where a later one needs a scope. -/
theorem merge_foldl_setIn {said : List Statement} {gathered : Scope} (s : Scope)
    (hgathered : ∀ q w, gathered.get? q = some w →
      ∀ later ∈ said, ¬ (q <+: later.path ∧ q ≠ later.path))
    (hsaid : said.Pairwise fun earlier later =>
      ¬ (earlier.path <+: later.path ∧ earlier.path ≠ later.path)) :
    s.merge (said.foldl Statement.setIn gathered) =
      said.foldl Statement.setIn (s.merge gathered) := by
  induction said generalizing gathered with
  | nil => rfl
  | cons first said ih =>
      obtain ⟨hfirst, hothers⟩ := List.pairwise_cons.mp hsaid
      have hset : ∀ q w, (first.setIn gathered).get? q = some w →
          ∀ later ∈ said, ¬ (q <+: later.path ∧ q ≠ later.path) := by
        intro q w hvalue later hmem
        rcases Scope.get?_set_cases hvalue with rfl | hbefore
        · exact hfirst later hmem
        · exact hgathered q w hbefore later (List.mem_cons_of_mem first hmem)
      have hone : s.merge (first.setIn gathered) = first.setIn (s.merge gathered) :=
        Scope.merge_set (fun q w hvalue => hgathered q w hvalue first List.mem_cons_self) s
      rw [List.foldl_cons, List.foldl_cons, ih hset hothers, hone]

/-- A text whose lines can all be read, and of which no statement sets a variable where a later
one needs a scope, does to any variables what its statements do one after another. A text with a
line that cannot be read assigns nothing, for the cause of the first such line. -/
theorem assignments_act_in_order (text : String) :
    (∀ said, statements (Text.lines text.toList) = .ok said →
      (said.Pairwise fun earlier later =>
        ¬ (earlier.path <+: later.path ∧ earlier.path ≠ later.path)) →
      ∃ gathered, assignments text = .ok gathered ∧
        ∀ s : Scope, s.merge gathered = said.foldl Statement.setIn s) ∧
    ((∃ line ∈ Text.lines text.toList, ∃ cause, Statement.ofLine line = .error cause) ↔
      ∃ cause, assignments text = .error cause) ∧
    ∀ cause, assignments text = .error cause ↔ FirstFault (Text.lines text.toList) cause := by
  have hfault (cause : LineError) :
      assignments text = .error cause ↔ FirstFault (Text.lines text.toList) cause := by
    rw [assignments_eq, Outcome.map_eq_error_iff, statements_eq_error_iff]
  refine ⟨?_, ?_, hfault⟩
  · intro said hread hsaid
    refine ⟨said.foldl Statement.setIn Scope.empty, by rw [assignments_eq, hread]; rfl, ?_⟩
    intro s
    rw [merge_foldl_setIn s (by simp [Scope.get?_empty]) hsaid, Scope.merge_empty]
  · constructor
    · rintro ⟨line, hmem, cause, hline⟩
      cases hread : assignments text with
      | error cause => exact ⟨cause, rfl⟩
      | ok gathered =>
          rw [assignments_eq] at hread
          obtain ⟨said, hstatements, -⟩ := Outcome.map_eq_ok_iff.mp hread
          obtain ⟨results, hresults, -⟩ := Outcome.map_eq_ok_iff.mp hstatements
          obtain ⟨result, hresult⟩ := Outcome.exists_ok_of_mapM hresults hmem
          rw [hline] at hresult
          cases hresult
    · rintro ⟨cause, hread⟩
      obtain ⟨before, line, after, hlines, -, hline⟩ := (hfault cause).mp hread
      exact ⟨line, by simp [hlines], cause, hline⟩

/-- What is done to a door: its lock is broken after the key was turned, and it is shut. -/
def burglary : String :=
  "Door.Lock.Key = true\nDoor.Lock = \"broken\";\n// too late\nDoor.Open == false"

/-- The lock is a scope when the first line is read and a value after the second one. -/
theorem assignments_act_in_order_of_burglary :
    ∃ said gathered, statements (Text.lines burglary.toList) = .ok said ∧
      assignments burglary = .ok gathered ∧
      Scope.door.merge gathered = said.foldl Statement.setIn Scope.door ∧
      (Scope.door.merge gathered).get? ["Door", "Lock"] = some (.text "broken") := by
  have hread : statements (Text.lines burglary.toList) = .ok _ := rfl
  obtain ⟨gathered, hgathered, hdone⟩ :=
    (assignments_act_in_order burglary).1 _ hread (by decide +kernel)
  have hsame := hdone Scope.door
  exact ⟨_, gathered, hread, hgathered, hsame, hsame ▸ by decide +kernel⟩

end Narrative.Script
