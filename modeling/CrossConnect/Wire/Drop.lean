import CrossConnect.Client.Operation
import CrossConnect.Wire.Node

/-!
The JSON form of drops: the fields of what is dropped beside its kind under `type`, or the kind in
front of the listed fields.
-/
namespace CrossConnect
namespace Wire
open FieldReader

def labelledFiberMembers (f : LabelledFiber) : List (String × Json) :=
  [("fiber", encode f.fiber), ("cable_name", encode f.cableName)]

def labelledFiberFields : FieldReader LabelledFiber := do
  let fiber ← required "fiber"
  let cableName ← required "cable_name"
  return { fiber, cableName }

instance : Wire LabelledFiber :=
  ⟨fun f => .object (labelledFiberMembers f), ofRecord? labelledFiberFields⟩

def dropMembers : Drop → List (String × Json)
  | .fiber f => labelledFiberMembers f
  | .bundle b => bundleMembers b
  | .cable c => cableMembers c
  | .mounted id => [("structure_id", encode id)]
  | .component id => [("component_type_id", encode id)]

def dropFields? : String → Option (FieldReader Drop)
  | "fiber" => some (.fiber <$> labelledFiberFields)
  | "bundle" => some (.bundle <$> bundleFields)
  | "cable" => some (.cable <$> cableFields)
  | "existing_structure" => some (.mounted <$> required "structure_id")
  | "component_type" => some (.component <$> required "component_type_id")
  | _ => none

instance : Wire Drop where
  encode drop := .object (("type", .string drop.kind) :: dropMembers drop)
  decode?
    | .object members =>
      match members.filter (·.1 == "type") with
      | [(_, .string kind)] => do ofRecord? (← dropFields? kind) (.object members)
      | _ => none
    | .array (.string kind :: items) => do ofRecord? (← dropFields? kind) (.array items)
    | _ => none

end Wire

namespace Drop

def maxDepth : Nat := 127

/-- Reads a drop from JSON text. All of the text is kept until the kind is known, so every part of
it must have a value. -/
def ofText? (text : String) : Option Drop := do
  let j ← Json.parse? text
  guard (j.hasValue ∧ j.depth ≤ maxDepth)
  Wire.decode? j

end Drop

def Failure.unsupportedDrop (explanation : String) : Failure :=
  ⟨.validation, "unsupported drop payload: " ++ explanation⟩

/-- Reads a drop; `explain` is what the JSON reader says of a form that is none. -/
def Drop.ofJson (j : Json) (explain : Json → String := fun _ => "") : Except Failure Drop :=
  match Wire.decode? j with
  | some drop => .ok drop
  | none => .error (.unsupportedDrop (explain j))

/-- Reads what was dropped and sends it where it belongs; what cannot be read changes nothing. -/
def Client.dropJsonOnPort (spot : PortSide) (j : Json) (structures : List Structure)
    (explain : Json → String := fun _ => "") : Job DropOutcome :=
  match Drop.ofJson j explain with
  | .ok drop => dropOnPort spot drop structures
  | .error e => rejectDrop e.message

end CrossConnect
