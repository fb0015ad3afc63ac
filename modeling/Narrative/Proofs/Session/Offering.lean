import Narrative.Proofs.Graph.Choices
import Narrative.Proofs.Pointwise
import Narrative.Proofs.Script.Guard

/-!
What the variables have to do with the choices of a node. They say of each choice whether it is
enabled and nothing else: which choices there are, in which order and with which texts, is a matter
of the graph, and so is whether they can be made at all, since a guard that cannot be read is at
fault with any variables.
-/

namespace Narrative

/-- The choice as it is shown whether it is enabled or not. -/
def Choice.unmarked (c : Choice) : Choice :=
  { c with enabled := false }

theorem Choice.eq_of_unmarked_eq {c other : Choice} (h : c.unmarked = other.unmarked) :
    c.index = other.index ∧ c.text = other.text ∧ c.guardText = other.guardText ∧
      c.target = other.target := by
  obtain ⟨hindex, htext, -, hguard, htarget⟩ := Choice.mk.inj h
  exact ⟨hindex, htext, hguard, htarget⟩

/-- Both outcomes are faults, and the same, or neither is. -/
abbrev Outcome.SameFault {ε α : Type} : Except ε α → Except ε α → Prop :=
  Outcome.SameBy fun _ => ()

namespace Script

/-- Whether a guard can be read is settled before any variable is looked at. -/
theorem sameFault_guardHolds (text : String) (store other : Store) :
    Outcome.SameFault (guardHolds text store) (guardHolds text other) := by
  rw [guardHolds_eq, guardHolds_eq]
  cases guardConditions text <;> rfl

end Script

-- Nothing below looks into a guard.
attribute [local irreducible] Script.guardHolds

theorem Fault.sameFault_ofScript {id : String} {x x' : Except Script.LineError Bool}
    (h : Outcome.SameFault x x') : Outcome.SameFault (ofScript id x) (ofScript id x') := by
  cases x <;> cases x' <;> simp_all [Outcome.Same, ofScript]

theorem Node.sameFault_conditionHolds (n : Node) (store other : Store) :
    Outcome.SameFault (n.conditionHolds store) (n.conditionHolds other) := by
  unfold conditionHolds
  exact Fault.sameFault_ofScript (Script.sameFault_guardHolds _ store other)

namespace Graph

variable {g : Graph} {n : Node} {store other : Store}

theorem sameFault_admits (store other : Store) (n : Node) :
    Outcome.SameFault (admits store n) (admits other n) := by
  unfold admits
  split
  · rfl
  · exact Fault.sameFault_ofScript (Script.sameFault_guardHolds n.guardText store other)

theorem same_edgeChoice_stores (g : Graph) (store other : Store) (n : Node) (edge : Edge)
    (index : Nat) :
    Outcome.SameBy Choice.unmarked (g.edgeChoice store n edge index)
      (g.edgeChoice other n edge index) := by
  unfold edgeChoice
  apply Outcome.same_bind_of_eq
  intro target _
  apply Outcome.same_bind (sameFault_admits store other target)
  intro enabled enabled' _ _ _
  rfl

theorem same_branchChoice_holds (g : Graph) (n : Node) (line : String) (holds holds' : Bool)
    (edge : Edge × Bool) (index : Nat) :
    Outcome.SameBy Choice.unmarked (g.branchChoice n line holds edge index)
      (g.branchChoice n line holds' edge index) := by
  unfold branchChoice
  apply Outcome.same_bind_of_eq
  intro target _
  rfl

theorem same_choices_stores (g : Graph) (n : Node) (store other : Store) :
    Outcome.SameBy (List.map Choice.unmarked) (g.choices store n) (g.choices other n) := by
  unfold choices
  split
  · unfold conditionChoices
    apply Outcome.same_bind (n.sameFault_conditionHolds store other)
    intro holds holds' _ _ _
    apply Outcome.sameBy_mapM_of_forall
    rintro ⟨edge, index⟩
    exact g.same_branchChoice_holds n _ holds holds' edge index
  · apply Outcome.sameBy_mapM_of_forall
    rintro ⟨edge, index⟩
    exact g.same_edgeChoice_stores store other n edge index

/-- With any two stores a node has the same fault in place of its choices, or it has as many choices
with the one as with the other, which differ at most in being enabled. Each has its place as its
index, and they lead over the edges that the node offers, one over each, in their order. -/
theorem choices_differ_in_enabled (g : Graph) (n : Node) (store other : Store) :
    (∃ fault, g.choices store n = .error fault ∧ g.choices other n = .error fault) ∨
      ∃ offered others, g.choices store n = .ok offered ∧ g.choices other n = .ok others ∧
        List.Forall₂ (fun c c' : Choice => c.index = c'.index ∧ c.text = c'.text ∧
          c.guardText = c'.guardText ∧ c.target = c'.target) offered others ∧
        (∀ (index : Nat) (c : Choice), offered[index]? = some c → c.index = index) ∧
        List.Forall₂ (fun edge c => g.resolve n edge = .ok c.target) (g.offeredEdges n)
          offered := by
  have hsame := g.same_choices_stores n store other
  cases hstore : g.choices store n with
  | error fault =>
      cases hother : g.choices other n with
      | error fault' =>
          rw [hstore, hother] at hsame
          exact .inl ⟨fault, rfl, congrArg _ (Eq.symm hsame)⟩
      | ok others =>
          rw [hstore, hother] at hsame
          exact hsame.elim
  | ok offered =>
      obtain ⟨others, hother, hunmarked⟩ := hsame.exists_ok hstore
      obtain ⟨hindex, hedges⟩ := offeredEdges_of_choices hstore
      refine .inr ⟨offered, others, rfl, hother, ?_, hindex, hedges⟩
      exact (forall₂_of_map_eq hunmarked).imp fun c c' => Choice.eq_of_unmarked_eq

end Graph

end Narrative
