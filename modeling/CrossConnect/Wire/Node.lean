import CrossConnect.Node.Plan
import CrossConnect.Wire.Basic

/-!
The JSON form of ports, structures, cables and plans.
-/
namespace CrossConnect.Wire
open FieldReader

def sideOfName? : String → Option Side
  | "a" => some .a
  | "b" => some .b
  | _ => none

instance : Wire Side where
  encode side := .string side.name
  decode? j := (variant? j).bind sideOfName?

def directionName : Direction → String
  | .inward => "in"
  | .outward => "out"

def directionOfName? : String → Option Direction
  | "in" => some .inward
  | "out" => some .outward
  | _ => none

instance : Wire Direction where
  encode direction := .string (directionName direction)
  decode? j := (variant? j).bind directionOfName?

instance : Wire PortSide where
  encode spot := .object [("port_number", encode spot.port), ("side", encode spot.side)]
  decode? := ofRecord? do
    let port ← required "port_number"
    let side ← required "side"
    return { port, side }

instance : Wire Port where
  encode port := .object
    [("port_number", encode port.number), ("direction", encode port.direction),
      ("label", encode port.label)]
  decode? := ofRecord? do
    let number ← required "port_number"
    let direction ← required "direction"
    let label ← defaulted "label" none
    return { number, direction, label }

instance : Wire ComponentType where
  encode c := .object [("id", encode c.id), ("name", encode c.name), ("ports", encode c.ports)]
  decode? := ofRecord? do
    let id ← required "id"
    let name ← required "name"
    let ports ← required "ports"
    return { id, name, ports }

instance : Wire Structure where
  encode s := .object
    [("id", encode s.id), ("name", encode s.name), ("slot_start", encode s.slotStart),
      ("slot_end", encode s.slotEnd), ("component_type", encode s.componentType)]
  decode? := ofRecord? do
    let id ← required "id"
    let name ← required "name"
    let slotStart ← required "slot_start"
    let slotEnd ← required "slot_end"
    let componentType ← optional "component_type"
    return { id, name, slotStart, slotEnd, componentType }

instance : Wire Fiber where
  encode f := .object
    [("id", encode f.id), ("cable_id", encode f.cableId),
      ("fiber_number_absolute", encode f.absolute), ("fiber_number_in_bundle", encode f.inBundle),
      ("bundle_number", encode f.bundle), ("color", encode f.color)]
  decode? := ofRecord? do
    let id ← required "id"
    let cableId ← required "cable_id"
    let absolute ← required "fiber_number_absolute"
    let inBundle ← required "fiber_number_in_bundle"
    let bundle ← required "bundle_number"
    let color ← required "color"
    return { id, cableId, absolute, inBundle, bundle, color }

def bundleMembers (b : Bundle) : List (String × Json) :=
  [("cable_id", encode b.cableId), ("cable_name", encode b.cableName),
    ("bundle_number", encode b.number), ("color", encode b.color), ("fibers", encode b.fibers)]

def bundleFields : FieldReader Bundle := do
  let cableId ← required "cable_id"
  let cableName ← required "cable_name"
  let number ← required "bundle_number"
  let color ← required "color"
  let fibers ← required "fibers"
  return { cableId, cableName, number, color, fibers }

instance : Wire Bundle := ⟨fun b => .object (bundleMembers b), ofRecord? bundleFields⟩

def cableMembers (c : Cable) : List (String × Json) :=
  [("id", encode c.id), ("name", encode c.name), ("fibers", encode c.fibers)]

def cableFields : FieldReader Cable := do
  let id ← required "id"
  let name ← required "name"
  let fibers ← defaulted "fibers" []
  return { id, name, fibers }

instance : Wire Cable := ⟨fun c => .object (cableMembers c), ofRecord? cableFields⟩

instance : Wire ComponentPlan where
  encode p := .object
    [("id", encode p.id), ("name", encode p.name), ("in_ports", encode p.inward),
      ("out_ports", encode p.outward)]
  decode? := ofRecord? do
    let id ← required "id"
    let name ← required "name"
    let inward ← required "in_ports"
    let outward ← required "out_ports"
    return { id, name, inward, outward }

instance : Wire BundlePlan where
  encode p := .object [("bundle_number", encode p.number), ("fiber_count", encode p.fiberCount)]
  decode? := ofRecord? do
    let number ← required "bundle_number"
    let fiberCount ← required "fiber_count"
    return { number, fiberCount }

instance : Wire CablePlan where
  encode p := .object
    [("id", encode p.id), ("name", encode p.name), ("bundles", encode p.bundles)]
  decode? := ofRecord? do
    let id ← required "id"
    let name ← required "name"
    let bundles ← required "bundles"
    return { id, name, bundles }

instance : Wire NodePlan where
  encode p := .object
    [("name", encode p.name), ("component_types", encode p.componentTypes),
      ("structures", encode p.structures), ("cables", encode p.cables)]
  decode? := ofRecord? do
    let name ← required "name"
    let componentTypes ← required "component_types"
    let structures ← required "structures"
    let cables ← defaulted "cables" []
    return { name, componentTypes, structures, cables }

end CrossConnect.Wire
