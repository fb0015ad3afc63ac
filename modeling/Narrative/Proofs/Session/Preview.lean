import Narrative.Proofs.Graph.Choices
import Narrative.Session.Settle

/-!
Previews of conditions. A condition is passed and never shown, but its choices can be listed all
the same: the edges of its first two output pins, marked by what its line comes to. A reader who
passes it is led over the first edge of one of these pins. Main statement: the listing and the
passing agree, in the faults of the line as well as in the edge that is taken.
-/

namespace Narrative

/-- The edges that a condition has for a verdict on its line: those of its first output pin if the
line holds, and those of its second one otherwise. -/
def Node.branch (n : Node) (holds : Bool) : List Edge :=
  match n.outputPins[if holds then 0 else 1]? with
  | some pin => pin.connections
  | none => []

theorem Node.branchEdges_eq (n : Node) :
    n.branchEdges = (n.branch true).map (fun edge => (edge, true)) ++
      (n.branch false).map fun edge => (edge, false) := by
  unfold branchEdges branch
  match n.outputPins with
  | [] => rfl
  | [first] => simp
  | first :: second :: others => simp

namespace Outcome

variable {ε α β : Type}

/-- A fault that cannot be one of the later steps is the fault of the first one. -/
theorem bind_eq_error_iff_of_blames (blame : ε → Prop) {x : Except ε α} {f : α → Except ε β}
    {fault : ε} (hf : ∀ a, Blames blame (f a)) (hfault : ¬ blame fault) :
    x >>= f = .error fault ↔ x = .error fault := by
  rw [bind_eq_error_iff]
  constructor
  · rintro (hx | ⟨a, -, ha⟩)
    · exact hx
    · exact absurd (hf a fault ha) hfault
  · exact .inl

end Outcome

namespace Graph

variable {g : Graph} {store : Store} {n : Node}

theorem branchTarget_eq (g : Graph) (store : Store) (n : Node) :
    g.branchTarget store n = n.conditionHolds store >>= fun holds =>
      match (n.branch holds).head? with
      | some edge => g.resolve n edge
      | none => .error (.missingConditionBranch n.id holds) := by
  unfold branchTarget
  congr 1
  funext holds
  unfold Node.branch
  cases n.outputPins[if holds then 0 else 1]? <;> rfl

section Faults

/-- Whether a fault is of the graph and not of a line of script. -/
def IsStructural (fault : Fault) : Prop :=
  ∀ node cause, fault ≠ .expression node cause

open Outcome

theorem blames_structural_resolve (edge : Edge) : Blames IsStructural (g.resolve n edge) := by
  unfold resolve
  split
  · exact blames_ok _
  · exact blames_error fun _ _ => Fault.noConfusion

/-- Only the line of a condition can make its choices a faulty line. -/
theorem choices_eq_expression_iff (hkind : g.kindOf n = .condition) {node : String}
    {cause : Script.LineError} :
    g.choices store n = .error (.expression node cause) ↔
      n.conditionHolds store = .error (.expression node cause) := by
  unfold choices
  rw [if_pos hkind]
  refine bind_eq_error_iff_of_blames IsStructural (fun holds => ?_) fun h => h _ _ rfl
  apply blames_mapM
  rintro ⟨edge, index⟩ -
  exact blames_bind (blames_structural_resolve edge.1) fun target _ => blames_ok _

theorem branchTarget_eq_expression_iff {node : String} {cause : Script.LineError} :
    g.branchTarget store n = .error (.expression node cause) ↔
      n.conditionHolds store = .error (.expression node cause) := by
  rw [branchTarget_eq]
  refine bind_eq_error_iff_of_blames IsStructural (fun holds => ?_) fun h => h _ _ rfl
  split
  · exact blames_structural_resolve _
  · exact blames_error fun _ _ => Fault.noConfusion

end Faults

section Listing

variable {offered : List Choice} {holds : Bool}

/-- The choices of a condition pin by pin, by the verdicts that the pins go with: they lead over
the edges of the pin, and are enabled if its verdict is the one on the line. -/
structure PinChoices (g : Graph) (n : Node) (holds : Bool) (pin : Bool → List Choice) : Prop where
  edges : ∀ verdict, List.Forall₂ (fun edge c => g.resolve n edge = .ok c.target)
    (n.branch verdict) (pin verdict)
  enabled : ∀ verdict, ∀ c ∈ pin verdict, c.enabled = (holds == verdict)

theorem exists_pinChoices (hkind : g.kindOf n = .condition) (h : g.choices store n = .ok offered) :
    ∃ holds pin, n.conditionHolds store = .ok holds ∧ offered = pin true ++ pin false ∧
      g.PinChoices n holds pin := by
  unfold choices at h
  rw [if_pos hkind] at h
  obtain ⟨holds, hholds, hmade⟩ := Outcome.bind_eq_ok_iff.mp h
  have hlisted := (forall₂_of_mapM_zipIdx hmade fun _ _ _ => branchChoice_eq_ok).2
  rw [Node.branchEdges_eq] at hlisted
  obtain ⟨first, second, rfl, hfirst, hsecond⟩ := exists_append_of_forall₂ hlisted
  refine ⟨holds, fun verdict => if verdict then first else second, hholds, rfl, ?_⟩
  have hpin (verdict : Bool) : List.Forall₂
      (fun edge c => g.resolve n edge = .ok c.target ∧ c.enabled = (holds == verdict))
      (n.branch verdict) (if verdict then first else second) := by
    cases verdict with
    | true => exact List.forall₂_map_left_iff.mp hfirst
    | false => exact List.forall₂_map_left_iff.mp hsecond
  refine ⟨fun verdict => (hpin verdict).imp fun edge c hmade => hmade.1, ?_⟩
  intro verdict c hmem
  obtain ⟨edge, -, hmade⟩ := exists_of_forall₂_of_mem (hpin verdict) hmem
  exact hmade.2

/-- The first enabled choice is the first one of the pin that goes with the verdict. -/
theorem PinChoices.find?_enabled {pin : Bool → List Choice} (h : g.PinChoices n holds pin) :
    (pin true ++ pin false).find? Choice.enabled = (pin holds).head? := by
  have hall : (pin holds).filter Choice.enabled = pin holds :=
    List.filter_eq_self.mpr fun c hmem => by simp [h.enabled holds c hmem]
  have hnone : (pin !holds).filter Choice.enabled = [] :=
    List.filter_eq_nil_iff.mpr fun c hmem => by simp [h.enabled (!holds) c hmem]
  rw [← List.head?_filter, List.filter_append]
  cases holds with
  | true =>
      rw [Bool.not_true] at hnone
      rw [hall, hnone, List.append_nil]
  | false =>
      rw [Bool.not_false] at hnone
      rw [hall, hnone, List.nil_append]

/-- A condition whose choices can be listed leads to the target of the first enabled one. -/
theorem PinChoices.branchTarget_eq {pin : Bool → List Choice} (h : g.PinChoices n holds pin)
    (hholds : n.conditionHolds store = .ok holds) :
    g.branchTarget store n =
      match (pin true ++ pin false).find? Choice.enabled with
      | some c => .ok c.target
      | none => .error (.missingConditionBranch n.id holds) := by
  rw [Graph.branchTarget_eq, hholds, h.find?_enabled]
  have hedges := h.edges holds
  generalize pin holds = listed at hedges
  change (match (n.branch holds).head? with
    | some edge => g.resolve n edge
    | none => .error (.missingConditionBranch n.id holds)) = _
  generalize n.branch holds = edges at hedges
  cases hedges with
  | nil => rfl
  | cons hfirst _ => exact hfirst

end Listing

/-- The choices of a condition show what becomes of a reader who comes to it. Its line is at fault
in the one just if it is in the other. If the choices can be listed, they are those of the first
output pin and then those of the second one, and the enabled ones are all of the pin that goes with
the verdict on the line and none of the other; a reader is led to the target of the first enabled
one, and if none is enabled the branch is reported as missing. -/
theorem branchTarget_agrees_choices (hkind : g.kindOf n = .condition) (store : Store) :
    (∀ node cause, g.choices store n = .error (.expression node cause) ↔
      g.branchTarget store n = .error (.expression node cause)) ∧
    ∀ offered, g.choices store n = .ok offered →
      ∃ holds pin, Script.guardHolds (String.ofList n.conditionLine) store = .ok holds ∧
        offered = pin true ++ pin false ∧ g.PinChoices n holds pin ∧
        (∀ target, g.branchTarget store n = .ok target ↔
          (offered.find? Choice.enabled).map Choice.target = some target) ∧
        ∀ node branch, g.branchTarget store n = .error (.missingConditionBranch node branch) ↔
          node = n.id ∧ branch = holds ∧ ∀ c ∈ offered, c.enabled = false := by
  refine ⟨fun node cause =>
    (choices_eq_expression_iff hkind).trans branchTarget_eq_expression_iff.symm, ?_⟩
  intro offered h
  obtain ⟨holds, pin, hholds, rfl, hpins⟩ := exists_pinChoices hkind h
  refine ⟨holds, pin, Fault.ofScript_eq_ok_iff.mp hholds, rfl, hpins, ?_, ?_⟩
  · intro target
    rw [hpins.branchTarget_eq hholds]
    cases (pin true ++ pin false).find? Choice.enabled <;> simp
  · intro node branch
    rw [hpins.branchTarget_eq hholds]
    cases hfind : (pin true ++ pin false).find? Choice.enabled with
    | none =>
        have hnone : ∀ c ∈ pin true ++ pin false, c.enabled = false := by
          simpa using List.find?_eq_none.mp hfind
        simp only [Except.error.injEq, Fault.missingConditionBranch.injEq]
        constructor
        · rintro ⟨rfl, rfl⟩
          exact ⟨rfl, rfl, hnone⟩
        · rintro ⟨rfl, rfl, -⟩
          exact ⟨rfl, rfl⟩
    | some c =>
        have hmem : c ∈ pin true ++ pin false := List.mem_of_find?_eq_some hfind
        have henabled : c.enabled = true := List.find?_some hfind
        constructor
        · intro hbranch
          cases hbranch
        · rintro ⟨-, -, hnone⟩
          exact absurd (hnone c hmem) (by simp [henabled])

/-- A fork by a door. Behind a shut door there is no way on, and what the third pin leads to is not
there at all. -/
def fork : Document where
  namespaces := [⟨"Door", [⟨"Open", .bool true⟩]⟩]
  packages := [{
    name := "Main"
    nodes := [
      { id := "fork", typeName := "Condition", expression := "// by day\nDoor.Open == true;\n?",
        outputPins := [{ connections := [{ target := "yard" }, { target := "hall" }] }, {},
          { connections := [{ target := "nowhere" }] }] },
      { id := "yard", typeName := "DialogueFragment" },
      { id := "hall", typeName := "DialogueFragment" }] }]

/-- With the door open both ways are shown as open, and a reader is led to the yard. With the door
shut both are shown as closed, and the other branch is missing. -/
theorem branchTarget_agrees_choices_at_fork :
    ∃ g n yard, Graph.ofDocument fork = .ok g ∧ g.kindOf n = .condition ∧ n.id = "fork" ∧
      yard.id = "yard" ∧ g.branchTarget (.ofNamespaces fork.namespaces) n = .ok yard ∧
      g.branchTarget .empty n = .error (.missingConditionBranch "fork" false) := by
  obtain ⟨g, n, yard, ways, closed, hg, -, hkind, hid, hyard, hways, hfirst, hclosed, hnone,
      hholds⟩ :
    ∃ g n yard ways closed, Graph.ofDocument fork = .ok g ∧ fork.nodes[0]? = some n ∧
      g.kindOf n = .condition ∧ n.id = "fork" ∧ yard.id = "yard" ∧
      g.choices (.ofNamespaces fork.namespaces) n = .ok ways ∧
      (ways.find? Choice.enabled).map Choice.target = some yard ∧
      g.choices .empty n = .ok closed ∧ closed.all (fun c => !c.enabled) = true ∧
      Script.guardHolds (String.ofList n.conditionLine) .empty = .ok false :=
    ⟨_, _, _, _, _, rfl, rfl, rfl, rfl, rfl, rfl, rfl, rfl, rfl, by decide +kernel⟩
  obtain ⟨-, -, -, -, -, htaken, -⟩ := (branchTarget_agrees_choices hkind _).2 ways hways
  obtain ⟨holds, -, hverdict, -, -, -, hmissing⟩ :=
    (branchTarget_agrees_choices hkind _).2 closed hclosed
  cases hholds.symm.trans hverdict
  exact ⟨g, n, yard, hg, hkind, hid, hyard, (htaken yard).mpr hfirst,
    (hmissing "fork" false).mpr ⟨hid.symm, rfl, by simpa using hnone⟩⟩

end Graph

end Narrative
