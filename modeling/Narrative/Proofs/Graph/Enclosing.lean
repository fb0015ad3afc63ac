import Narrative.Proofs.Graph.Lineage
import Narrative.Session.Settle

/-!
The containers around a node. They are what a lineage has of containers, in its order, so what
is known of lineages is known of them. Main statement: where no node lies around itself, coming
afresh to a node opens every container around it, once each and from the outside to the inside,
and the bound on the steps never matters; where one does, the bound ends the search.
-/

namespace Narrative.Graph

variable {document : Document} {g : Graph} {n outer parent : Node} {steps : Nat}

theorem containersAround_eq_filter (g : Graph) (steps : Nat) (n : Node) :
    g.containersAround steps n = (g.lineage steps n).filter fun m => g.kindOf m = .container := by
  induction steps generalizing n with
  | zero => rfl
  | succ steps ih =>
      cases hparent : g.parent? n.id with
      | none =>
          rw [lineage_succ_of_none hparent]
          simp only [containersAround, hparent, List.filter_nil]
      | some parent =>
          rw [lineage_succ_of_some hparent]
          simp only [containersAround, hparent, List.filter_cons, decide_eq_true_eq, ih]

theorem mem_containersAround :
    outer ∈ g.containersAround steps n ↔
      outer ∈ g.lineage steps n ∧ g.kindOf outer = .container := by
  rw [containersAround_eq_filter, List.mem_filter, decide_eq_true_eq]

/-- Each of the containers around a node lies around the node and the containers before it. -/
theorem pairwise_containersAround (g : Graph) (steps : Nat) (n : Node) :
    (n :: g.containersAround steps n).Pairwise fun inner outer => g.Around outer inner := by
  rw [containersAround_eq_filter]
  exact (pairwise_lineage g steps n).sublist (List.filter_sublist.cons_cons n)

theorem nodup_containersAround (hacyclic : ∀ n, ¬g.Around n n) (steps : Nat) (n : Node) :
    (g.containersAround steps n).Nodup := by
  rw [containersAround_eq_filter]
  exact (List.nodup_cons.mp (nodup_lineage hacyclic steps n)).2.filter _

theorem length_containersAround_le (g : Graph) (steps : Nat) (n : Node) :
    (g.containersAround steps n).length ≤ steps := by
  rw [containersAround_eq_filter]
  exact Nat.le_trans (List.length_filter_le _ _) (length_lineage_le g steps n)

/-- The containers around a node in a container are that container and those around it. -/
theorem enclosingContainers_of_parent? (hg : ofDocument document = .ok g)
    (hacyclic : ∀ n, ¬g.Around n n) (hparent : g.parent? n.id = some parent)
    (hkind : g.kindOf parent = .container) :
    g.enclosingContainers n = parent :: g.enclosingContainers parent := by
  simp only [enclosingContainers, containersAround_eq_filter,
    lineage_nodeCount hg hacyclic hparent, List.filter_cons, hkind, decide_true, if_true]

/-- Where no node lies around itself, the containers that are opened around a reader who comes
afresh to a node are all the containers around it and nothing else, each once, and from the
outermost to the innermost; more steps would find no others. In every graph, even where parents
go round in a circle, there are at most as many as there are nodes, and all are containers. -/
theorem enclosingContainers_listed (document : Document) :
    ((document.nodes.map Node.id).Nodup → ∃ g, ofDocument document = .ok g ∧
      ((∀ n, ¬g.Around n n) → ∀ n ∈ document.nodes,
        (∀ m, m ∈ g.enclosingContainers n ↔ g.Around m n ∧ g.kindOf m = .container) ∧
        (g.enclosingContainers n).Nodup ∧
        (g.enclosingContainers n).reverse.Pairwise (fun outer inner => g.Around outer inner) ∧
        ∀ steps, g.nodeCount ≤ steps →
          g.containersAround steps n = g.enclosingContainers n)) ∧
    ∀ (g : Graph) (n : Node), (g.enclosingContainers n).length ≤ g.nodeCount ∧
      ∀ m ∈ g.enclosingContainers n, g.kindOf m = .container := by
  constructor
  · intro hids
    obtain ⟨g, hg⟩ := exists_ofDocument hids
    refine ⟨g, hg, fun hacyclic n hn => ⟨fun m => ?_, ?_, ?_, fun steps hsteps => ?_⟩⟩
    · rw [enclosingContainers, mem_containersAround, mem_lineage_iff_around hg hacyclic]
    · exact nodup_containersAround hacyclic _ n
    · rw [List.pairwise_reverse]
      exact (List.pairwise_cons.mp (pairwise_containersAround g g.nodeCount n)).2
    · rw [enclosingContainers, containersAround_eq_filter, containersAround_eq_filter,
        lineage_of_nodeCount_le hg hacyclic ((holds_iff hg).mpr hn) hsteps]
  · intro g n
    exact ⟨length_containersAround_le g _ n, fun m hm => (mem_containersAround.mp hm).2⟩

/-- A letter on a desk, which is no container, in the study of a house. The outline has the study
in a folder, which is no node, and it is the study itself that refers to the house. -/
def homestead : Document where
  packages := [{
    name := "Main"
    nodes := [
      { id := "letter", typeName := "DialogueFragment" },
      { id := "desk", typeName := "Hub" },
      { id := "study", typeName := "FlowFragment", parent := some "house" },
      { id := "house", typeName := "Dialogue" }] }]
  outline :=
    .entry "" [.entry "house" [],
      .entry "rooms" [.entry "study" [.entry "desk" [.entry "letter" []]]]]

/-- Whoever comes afresh to the letter has the study open in the house. -/
theorem enclosingContainers_listed_of_homestead :
    ∃ g letter study house, ofDocument homestead = .ok g ∧ homestead.nodes[0]? = some letter ∧
      homestead.nodes[2]? = some study ∧ homestead.nodes[3]? = some house ∧
      g.enclosingContainers letter = [study, house] ∧ g.Around house letter ∧
      g.Around house study ∧ g.containersAround 9 letter = [study, house] := by
  obtain ⟨g, letter, study, house, hg, hletter, hstudy, hhouse, hopen⟩ :
    ∃ g letter study house, ofDocument homestead = .ok g ∧ homestead.nodes[0]? = some letter ∧
      homestead.nodes[2]? = some study ∧ homestead.nodes[3]? = some house ∧
      g.enclosingContainers letter = [study, house] :=
    ⟨_, _, _, _, rfl, rfl, rfl, rfl, rfl⟩
  obtain ⟨other, hother, hlisted⟩ := (enclosingContainers_listed homestead).1 (by decide)
  obtain rfl : g = other := Except.ok.inj (hg.symm.trans hother)
  have hacyclic := not_around_self_of_height hg
    (["letter", "desk", "study", "house", "rooms", ""].idxOf ·) (by decide) (by decide)
  obtain ⟨hmem, -, horder, hsteps⟩ := hlisted hacyclic letter (List.mem_of_getElem? hletter)
  rw [hopen] at hmem horder hsteps
  refine ⟨g, letter, study, house, hg, hletter, hstudy, hhouse, hopen, ?_, ?_, ?_⟩
  · exact ((hmem house).mp (by simp)).1
  · exact (List.pairwise_cons.mp horder).1 study (by simp)
  · exact hsteps 9 (by rw [nodeCount_eq hg]; decide)

/-- Two containers that refer to each other are opened in turn, until the steps are used up. -/
example :
    ((ofDocument { packages := [{ name := "", nodes := [
        { id := "dream", typeName := "FlowFragment", parent := some "sleep" },
        { id := "sleep", typeName := "FlowFragment", parent := some "dream" }] }] }).map fun g =>
      (g.node? "dream").map fun n => (g.enclosingContainers n).map Node.id) =
      .ok (some ["sleep", "dream"]) := by
  rfl

end Narrative.Graph
