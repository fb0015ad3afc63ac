import Narrative.Document.Basic
import Narrative.Document.Kind
import Narrative.Variables.Json

/-!
Documents as stored data. Every part is a record; what is missing has its
default, except for the ids, names, types and targets that give a part its
meaning. Optional texts that are missing are not written.
-/

namespace Narrative

open Json

def Edge.ofJson? (data : Json) : Option Edge :=
  match fields? ["targetId", "label"] data with
  | some [target, label] => do
    return { target := ← required asText? target, label := ← optionalText? label }
  | _ => none

def Edge.toJson (e : Edge) : Json :=
  .object (("targetId", .text e.target) :: optionalMember "label" e.label)

def Pin.ofJson? (data : Json) : Option Pin :=
  match fields? ["text", "connections"] data with
  | some [text, connections] => do
    return { text := ← optionalText? text,
             connections := ← withDefault [] (asList? Edge.ofJson?) connections }
  | _ => none

def Pin.toJson (p : Pin) : Json :=
  .object (optionalMember "text" p.text ++
    [("connections", .array (p.connections.map Edge.toJson))])

def Node.fieldNames : List String :=
  ["id", "type", "displayName", "text", "expression", "speakerRef", "color", "parentId",
   "target", "stageDirections", "inputPins", "outputPins"]

def Node.ofJson? (data : Json) : Option Node :=
  match fields? Node.fieldNames data with
  | some [id, typeName, displayName, text, expression, speaker, color, parent, target,
          stageDirections, inputPins, outputPins] => do
    return { id := ← required asText? id,
             typeName := ← required asText? typeName,
             displayName := ← withDefault "" asText? displayName,
             text := ← withDefault "" asText? text,
             expression := ← withDefault "" asText? expression,
             speaker := ← optionalText? speaker,
             color := ← optionalText? color,
             parent := ← optionalText? parent,
             target := ← optionalText? target,
             stageDirections := ← optionalText? stageDirections,
             inputPins := ← withDefault [] (asList? Pin.ofJson?) inputPins,
             outputPins := ← withDefault [] (asList? Pin.ofJson?) outputPins }
  | _ => none

def Node.toJson (n : Node) : Json :=
  .object ([("id", .text n.id), ("type", .text n.typeName), ("displayName", .text n.displayName),
            ("text", .text n.text), ("expression", .text n.expression)] ++
    optionalMember "speakerRef" n.speaker ++
    optionalMember "color" n.color ++
    optionalMember "parentId" n.parent ++
    optionalMember "target" n.target ++
    optionalMember "stageDirections" n.stageDirections ++
    [("inputPins", .array (n.inputPins.map Pin.toJson)),
     ("outputPins", .array (n.outputPins.map Pin.toJson))])

def Package.ofJson? (data : Json) : Option Package :=
  match fields? ["name", "nodes"] data with
  | some [name, nodes] => do
    return { name := ← required asText? name,
             nodes := ← withDefault [] (asList? Node.ofJson?) nodes }
  | _ => none

def Package.toJson (p : Package) : Json :=
  .object [("name", .text p.name), ("nodes", .array (p.nodes.map Node.toJson))]

def TypeDefinition.ofJson? (data : Json) : Option TypeDefinition :=
  match fields? ["type", "class", "inheritsFrom"] data with
  | some [name, className, derivedFrom] => do
    return { name := ← required asText? name,
             className := ← withDefault "" asText? className,
             derivedFrom := ← optionalText? derivedFrom }
  | _ => none

def TypeDefinition.toJson (t : TypeDefinition) : Json :=
  .object ([("type", .text t.name), ("class", .text t.className)] ++
    optionalMember "inheritsFrom" t.derivedFrom)

def Outline.ofJson? (data : Json) : Option Outline :=
  match _hfields : fields? ["id", "children"] data with
  | some [id, none] => do
    return .entry (← required asText? id) []
  | some [id, some (.array items)] => do
    return .entry (← required asText? id) (← items.attach.mapM fun item => ofJson? item.val)
  | _ => none
termination_by sizeOf data
decreasing_by
  have hfield : sizeOf (Json.array items) < sizeOf data := sizeOf_field_lt _hfields (by simp)
  have hitem := List.sizeOf_lt_of_mem item.property
  simp only [Json.array.sizeOf_spec] at hfield
  omega

mutual

def Outline.toJson : Outline → Json
  | .entry id children => .object [("id", .text id), ("children", .array (toJsonAll children))]

def Outline.toJsonAll : List Outline → List Json
  | [] => []
  | outline :: outlines => outline.toJson :: toJsonAll outlines

end

def Document.ofJson? (data : Json) : Option Document :=
  match fields? ["globalVariables", "packages", "objectDefinitions", "hierarchy"] data with
  | some [namespaces, packages, types, outline] => do
    return { namespaces := ← withDefault [] (asList? Namespace.ofJson?) namespaces,
             packages := ← withDefault [] (asList? Package.ofJson?) packages,
             types := ← withDefault [] (asList? TypeDefinition.ofJson?) types,
             outline := ← withDefault default Outline.ofJson? outline }
  | _ => none

def Document.toJson (d : Document) : Json :=
  .object [("globalVariables", .array (d.namespaces.map Namespace.toJson)),
           ("packages", .array (d.packages.map Package.toJson)),
           ("objectDefinitions", .array (d.types.map TypeDefinition.toJson)),
           ("hierarchy", d.outline.toJson)]

/-- A kind as stored data: its name, the name of an unknown one under a heading. -/
def Kind.toJson : Kind → Json
  | .unknown name => .object [("Unknown", .text name)]
  | kind => .text kind.name

end Narrative
