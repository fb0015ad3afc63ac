import Narrative.Document.Json
import Narrative.Proofs.Variables.Stored

/-!
Documents read back from stored data. Every record writes each of its fields under the name
under which it is looked for, a text that is missing is not written and is missing again, and
the outline comes back with all of its entries. Main statement: what is stored of a document,
and of a tree of variables, is read back as it was, if its numbers are finite.
-/

namespace Narrative

open Json

theorem Edge.ofJson?_toJson (e : Edge) : Edge.ofJson? e.toJson = some e := by
  have hwritten : e.toJson = .object (writtenMembers
      [("targetId", some (.text e.target)), ("label", e.label.map .text)]) := by
    simp [toJson]
  have hnodup : ["targetId", "label"].Nodup := by decide
  have hfields := fields?_of_written hnodup hwritten rfl
  simp [ofJson?, hfields, required, asText?]

theorem Pin.ofJson?_toJson (p : Pin) : Pin.ofJson? p.toJson = some p := by
  have hwritten : p.toJson = .object (writtenMembers
      [("text", p.text.map .text),
       ("connections", some (.array (p.connections.map Edge.toJson)))]) := by
    simp [toJson]
  have hnodup : ["text", "connections"].Nodup := by decide
  have hfields := fields?_of_written hnodup hwritten rfl
  have hconnections : asList? Edge.ofJson? (.array (p.connections.map Edge.toJson)) =
      some p.connections :=
    asList?_array_map fun e _ => Edge.ofJson?_toJson e
  simp [ofJson?, hfields, withDefault, hconnections]

theorem Node.ofJson?_toJson (n : Node) : Node.ofJson? n.toJson = some n := by
  have hwritten : n.toJson = .object (writtenMembers
      [("id", some (.text n.id)), ("type", some (.text n.typeName)),
       ("displayName", some (.text n.displayName)), ("text", some (.text n.text)),
       ("expression", some (.text n.expression)), ("speakerRef", n.speaker.map .text),
       ("color", n.color.map .text), ("parentId", n.parent.map .text),
       ("target", n.target.map .text), ("stageDirections", n.stageDirections.map .text),
       ("inputPins", some (.array (n.inputPins.map Pin.toJson))),
       ("outputPins", some (.array (n.outputPins.map Pin.toJson)))]) := by
    simp [toJson]
  have hnodup : fieldNames.Nodup := by decide
  have hfields := fields?_of_written hnodup hwritten rfl
  have hpins (pins : List Pin) : asList? Pin.ofJson? (.array (pins.map Pin.toJson)) = some pins :=
    asList?_array_map fun p _ => Pin.ofJson?_toJson p
  simp [ofJson?, hfields, required, withDefault, asText?, hpins]

theorem Package.ofJson?_toJson (p : Package) : Package.ofJson? p.toJson = some p := by
  have hwritten : p.toJson = .object (writtenMembers
      [("name", some (.text p.name)), ("nodes", some (.array (p.nodes.map Node.toJson)))]) := rfl
  have hnodup : ["name", "nodes"].Nodup := by decide
  have hfields := fields?_of_written hnodup hwritten rfl
  have hnodes : asList? Node.ofJson? (.array (p.nodes.map Node.toJson)) = some p.nodes :=
    asList?_array_map fun n _ => Node.ofJson?_toJson n
  simp [ofJson?, hfields, required, withDefault, asText?, hnodes]

theorem TypeDefinition.ofJson?_toJson (t : TypeDefinition) :
    TypeDefinition.ofJson? t.toJson = some t := by
  have hwritten : t.toJson = .object (writtenMembers
      [("type", some (.text t.name)), ("class", some (.text t.className)),
       ("inheritsFrom", t.derivedFrom.map .text)]) := by
    simp [toJson]
  have hnodup : ["type", "class", "inheritsFrom"].Nodup := by decide
  have hfields := fields?_of_written hnodup hwritten rfl
  simp [ofJson?, hfields, required, withDefault, asText?]

namespace Outline

/-- An outline is read from its id and from what its children are read to. -/
theorem ofJson?_of_fields? {data : Json} {id : String} {items : List Json}
    (h : fields? ["id", "children"] data = some [some (.text id), some (.array items)]) :
    ofJson? data = (items.mapM ofJson?).map (.entry id) := by
  rw [ofJson?]
  split
  · rename_i hother
    rw [h] at hother
    cases hother
  · rename_i hother
    rw [h] at hother
    cases hother
    simp only [List.mapM_subtype, List.unattach_attach]
    cases items.mapM ofJson? <;> rfl
  · rename_i hother
    exact absurd h (hother _ _)

mutual

theorem ofJson?_toJson : ∀ outline : Outline, ofJson? outline.toJson = some outline
  | .entry id children => by
      have hwritten : (entry id children).toJson = .object (writtenMembers
          [("id", some (.text id)), ("children", some (.array (toJsonAll children)))]) := rfl
      have hnodup : ["id", "children"].Nodup := by decide
      rw [ofJson?_of_fields? (fields?_of_written hnodup hwritten rfl), mapM_toJsonAll children]
      rfl

theorem mapM_toJsonAll : ∀ outlines : List Outline,
    (toJsonAll outlines).mapM ofJson? = some outlines
  | [] => rfl
  | outline :: outlines => by
      rw [toJsonAll, List.mapM_cons, ofJson?_toJson outline, mapM_toJsonAll outlines]
      rfl

end

end Outline

/-- Whether every variable of a document is declared with no number, or with a finite one. -/
def Document.IsFinite (d : Document) : Prop :=
  ∀ n ∈ d.namespaces, ∀ declaration ∈ n.declarations, declaration.initial.IsFinite

instance (d : Document) : Decidable d.IsFinite :=
  inferInstanceAs (Decidable (∀ n ∈ d.namespaces, ∀ declaration ∈ n.declarations,
    declaration.initial.IsFinite))

theorem Document.ofJson?_toJson {d : Document} (h : d.IsFinite) :
    Document.ofJson? d.toJson = some d := by
  have hwritten : d.toJson = .object (writtenMembers
      [("globalVariables", some (.array (d.namespaces.map Namespace.toJson))),
       ("packages", some (.array (d.packages.map Package.toJson))),
       ("objectDefinitions", some (.array (d.types.map TypeDefinition.toJson))),
       ("hierarchy", some d.outline.toJson)]) := rfl
  have hnodup : ["globalVariables", "packages", "objectDefinitions", "hierarchy"].Nodup := by
    decide
  have hfields := fields?_of_written hnodup hwritten rfl
  have hnamespaces : asList? Namespace.ofJson? (.array (d.namespaces.map Namespace.toJson)) =
      some d.namespaces :=
    asList?_array_map fun n hmem => Namespace.ofJson?_toJson (h n hmem)
  have hpackages : asList? Package.ofJson? (.array (d.packages.map Package.toJson)) =
      some d.packages :=
    asList?_array_map fun p _ => Package.ofJson?_toJson p
  have htypes : asList? TypeDefinition.ofJson? (.array (d.types.map TypeDefinition.toJson)) =
      some d.types :=
    asList?_array_map fun t _ => TypeDefinition.ofJson?_toJson t
  simp [ofJson?, hfields, withDefault, hnamespaces, hpackages, htypes,
    Outline.ofJson?_toJson d.outline]

/-- What is stored of a document is read back as that document, whichever of its texts are
missing and however deep its outline is, if the numbers that it declares are finite; and so is
a tree of variables, whatever its names, with its empty scopes. -/
theorem stored_readsBack :
    (∀ d : Document, d.IsFinite → Document.ofJson? d.toJson = some d) ∧
    ∀ s : Scope, s.IsFinite → Scope.ofJson? s.toJson = some s :=
  ⟨fun _ => Document.ofJson?_toJson, fun _ => Scope.ofJson?_toJson⟩

/-- A document with a negative zero, with missing texts and empty ones, and with an outline in
which an id comes again below itself. -/
def keepsake : Document where
  namespaces := [⟨"Purse", [⟨"Coins", .number (.zero true)⟩, ⟨"Open", .text "true"⟩]⟩, ⟨"", []⟩]
  packages :=
    [{ name := "Main"
       nodes :=
        [{ id := "a", typeName := "Choice", text := "Again?", speaker := some ""
           inputPins := [{ text := some "Purse.Open==true" }, {}]
           outputPins := [{ connections := [{ target := "a", label := some "Yes" },
                                            { target := "b" }] }] }] }]
  types := [{ name := "Choice", className := "Hub" }]
  outline := .entry "Main" [.entry "a" [.entry "a" []], .entry "" []]

/-- Scopes without a name and with a dotted one, the first of them empty. -/
def oddments : Scope where
  bindings := .scope "" .nil (.scope "a.b" (.value "c" (.number (.zero true)) .nil) .nil)
  sorted := ⟨trivial, (by decide : "" < "a.b"), ⟨trivial, trivial⟩, trivial, trivial⟩

theorem stored_readsBack_of_keepsake :
    Document.ofJson? keepsake.toJson = some keepsake ∧
    Scope.ofJson? oddments.toJson = some oddments :=
  ⟨stored_readsBack.1 keepsake (by decide), stored_readsBack.2 oddments (by decide)⟩

end Narrative
