import Narrative.Proofs.Session.Lockstep

/-!
Documents that differ in their declarations only. A document can be made to declare other
variables and nothing else about it changes. As long as what is declared agrees wherever a
guard or a condition looks, no reader can tell.
-/

namespace Narrative

/-- The document with other declarations. -/
def Document.declaring (d : Document) (namespaces : List Namespace) : Document :=
  { d with namespaces }

def Graph.declaring (g : Graph) (namespaces : List Namespace) : Graph :=
  { g with document := g.document.declaring namespaces }

def Story.declaring (story : Story) (namespaces : List Namespace) : Story :=
  { story with graph := story.graph.declaring namespaces }

theorem Graph.ofDocument_declaring (document : Document) (namespaces : List Namespace) :
    ofDocument (document.declaring namespaces) =
      (ofDocument document).map fun g => g.declaring namespaces := by
  have hnodes : (document.declaring namespaces).nodes = document.nodes := rfl
  unfold ofDocument
  rw [hnodes]
  cases indexNodes ∅ document.nodes <;> rfl

namespace Story

variable {document : Document} {namespaces : List Namespace} {settings : Settings}

theorem ofDocument_declaring :
    ofDocument (document.declaring namespaces) settings =
      (ofDocument document settings).map fun story => story.declaring namespaces := by
  unfold ofDocument
  rw [Graph.ofDocument_declaring]
  cases Graph.ofDocument document with
  | error fault => rfl
  | ok g =>
      have hstart : (g.declaring namespaces).findStart settings.startMarker settings.strictStart =
          g.findStart settings.startMarker settings.strictStart := rfl
      simp only [Except.map, bind, Except.bind, hstart]
      cases g.findStart settings.startMarker settings.strictStart <;> rfl

theorem alike_declaring (story : Story) (namespaces : List Namespace) :
    story.Alike (story.declaring namespaces) :=
  ⟨⟨rfl, rfl, rfl, rfl, rfl⟩, rfl, rfl⟩

/-- The same triggers get the same answers from both, and lead to the same flow. -/
def SameReading (reading other : Story × Session) : Prop :=
  ∀ triggers,
    (reading.1.run reading.2 triggers).1 = (other.1.run other.2 triggers).1 ∧
      (reading.1.run reading.2 triggers).2.SameFlow (other.1.run other.2 triggers).2

theorem opening_declaring (story : Story) (namespaces : List Namespace) :
    (story.declaring namespaces).opening =
      story.reenter { store := Store.ofNamespaces namespaces, route := {} } story.start >>=
        story.shown := by
  have halike := story.alike_declaring namespaces
  have hshown : story.shown = (story.declaring namespaces).shown := funext halike.shown_eq
  rw [hshown, halike.reenter_eq]
  rfl

theorem same_opening {story : Story}
    (hg : Graph.ofDocument story.graph.document = .ok story.graph)
    (hstart : story.graph.Holds story.start)
    (hagree : Scope.AgreeOn story.graph.readPaths
      (Store.ofNamespaces story.graph.document.namespaces).initial
      (Store.ofNamespaces namespaces).initial) :
    Outcome.Same (Session.InStep story.graph.readPaths) story.opening
      (story.declaring namespaces).opening := by
  have hinStep : Progress.InStep story.graph.readPaths
      { store := Store.ofNamespaces story.graph.document.namespaces, route := {} }
      { store := Store.ofNamespaces namespaces, route := {} } :=
    ⟨hagree, hagree, rfl, rfl, rfl, .nil⟩
  rw [opening_declaring]
  apply Outcome.same_bind (same_reenter hg hinStep hstart)
  intro q qOther hq _ hinStep
  obtain ⟨-, -, -, -, hstands⟩ := reenter_eq_ok hstart hq
  exact same_shown hg hinStep hstands

/-- Documents that differ in their declarations only, and declare values of the same form,
or none, for every variable that a guard or the line of a condition asks about, are read
alike: neither can be opened, with the same fault, or both are opened, and then the same
triggers get the same answers and lead to the same flow. -/
theorem sameReading_of_agreeOn
    (hagree : ∀ g, Graph.ofDocument document = .ok g →
      Scope.AgreeOn g.readPaths (Store.ofNamespaces document.namespaces).initial
        (Store.ofNamespaces namespaces).initial) :
    Outcome.Same SameReading (opened document settings)
      (opened (document.declaring namespaces) settings) := by
  unfold opened
  rw [ofDocument_declaring]
  cases hstory : ofDocument document settings with
  | error fault => exact rfl
  | ok story =>
      obtain ⟨hgraph, -, -⟩ := ofDocument_eq_ok hstory
      have hdocument := Graph.document_of_ofDocument hgraph
      have hg := Graph.ofDocument_document hgraph
      have hdeclared := hagree story.graph hgraph
      rw [← hdocument] at hdeclared
      apply Outcome.same_bind (same_opening hg (holds_start hstory) hdeclared)
      intro first second hfirst _ hinStep triggers
      obtain ⟨hstart, hpast⟩ := recalls_of_opened (opened_eq_ok_iff.mpr ⟨hstory, hfirst⟩)
      obtain ⟨hanswers, hlast⟩ := inStep_run hg hstart hpast hinStep triggers
      dsimp only
      rw [← (story.alike_declaring namespaces).run_eq]
      exact ⟨hanswers, hlast.sameFlow⟩

/-- The crossroads with one word in place of a truth value, and one variable more. -/
def furnished : List Namespace :=
  [⟨"Flags", [⟨"Open", .text "false"⟩, ⟨"Lit", .bool true⟩]⟩]

/-- The tour goes the same way through the furnished crossroads. -/
theorem sameReading_of_furnished :
    ∃ story first other second, opened crossroads {} = .ok (story, first) ∧
      opened (crossroads.declaring furnished) {} = .ok (other, second) ∧
      first.progress.store ≠ second.progress.store ∧
      (story.run first tour).1 = (other.run second tour).1 := by
  have hagree : ∀ g, Graph.ofDocument crossroads = .ok g →
      Scope.AgreeOn g.readPaths (Store.ofNamespaces crossroads.namespaces).initial
        (Store.ofNamespaces furnished).initial := by
    intro g hg
    have hgraph : Graph.ofDocument crossroads = .ok _ := rfl
    cases hgraph.symm.trans hg
    -- The graph asks about the key, which nothing declares, and about the gate.
    rintro path (_ | ⟨_, _ | ⟨_, hpath⟩⟩)
    · exact .none
    · exact .some (.inl rfl)
    · cases hpath
  have hopened : opened crossroads {} = .ok (_, _) := rfl
  have hother : opened (crossroads.declaring furnished) {} = .ok (_, _) := rfl
  have hsame := (sameReading_of_agreeOn hagree).of_ok hopened hother
  exact ⟨_, _, _, _, hopened, hother, by decide +kernel, (hsame tour).1⟩

end Story

end Narrative
