import CrossConnect.Editor
import CrossConnect.Wire.Node

/-!
The JSON form of splice rows, merge groups and the editor.
-/
namespace CrossConnect.Wire
open FieldReader

def rowIdOfKind? : String → Option (Uuid → RowId)
  | "persisted" => some .persisted
  | "temporary" => some .temporary
  | _ => none

instance : Wire RowId where
  encode
    | .persisted id => .object [("kind", .string "persisted"), ("id", encode id)]
    | .temporary id => .object [("kind", .string "temporary"), ("id", encode id)]
  decode? := ofTagged? do
    let make ← variant "kind" rowIdOfKind?
    let id ← required "id"
    return make id

instance : Wire Termination where
  encode t := .object
    [("fiber_id", encode t.fiberId), ("cable_id", encode t.cableId),
      ("fiber_number_absolute", encode t.absolute), ("bundle_number", encode t.bundle),
      ("color", encode t.color), ("cable_name", encode t.cableName)]
  decode? := ofRecord? do
    let fiberId ← required "fiber_id"
    let cableId ← required "cable_id"
    let absolute ← required "fiber_number_absolute"
    let bundle ← required "bundle_number"
    let color ← required "color"
    let cableName ← required "cable_name"
    return { fiberId, cableId, absolute, bundle, color, cableName }

instance : Wire GroupSpan where
  encode s := .object [("port_numbers", encode s.ports), ("size", encode s.size)]
  decode? := ofRecord? do
    let ports ← required "port_numbers"
    let size ← required "size"
    return { ports, size }

instance : Wire Endpoint where
  encode e := .object
    [("fiber", encode e.fiber), ("merge_group", encode e.group), ("merge_info", encode e.span)]
  decode? := ofRecord? do
    let fiber ← optional "fiber"
    let group ← optional "merge_group"
    let span ← optional "merge_info"
    return { fiber, group, span }

instance : Wire Splice where
  encode row := .object
    [("id", encode row.id), ("structure_id", encode row.structureId),
      ("port_number", encode row.port), ("endpoint_a", encode row.endpointA),
      ("endpoint_b", encode row.endpointB)]
  decode? := ofRecord? do
    let id ← required "id"
    let structureId ← required "structure_id"
    let port ← required "port_number"
    let endpointA ← required "endpoint_a"
    let endpointB ← required "endpoint_b"
    return { id, structureId, port, endpointA, endpointB }

instance : Wire MergeGroup where
  encode g := .object
    [("id", encode g.id), ("structure_id", encode g.structureId), ("side", encode g.side),
      ("port_numbers", encode g.ports), ("fibers", encode g.fibers)]
  decode? := ofRecord? do
    let id ← required "id"
    let structureId ← required "structure_id"
    let side ← required "side"
    let ports ← required "port_numbers"
    let fibers ← defaulted "fibers" []
    return { id, structureId, side, ports, fibers }

instance : Wire SelectedStructure where
  encode s := .object [("structure", encode s.record), ("ports", encode s.ports)]
  decode? := ofRecord? do
    let record ← required "structure"
    let ports ← required "ports"
    return { record, ports }

instance : Wire Editor where
  encode e := .object
    [("selected", encode e.selected), ("splices", encode e.rows),
      ("merge_mode", encode e.mergeMode), ("selection", encode e.selection)]
  decode? := ofRecord? do
    let selected ← optional "selected"
    let rows ← required "splices"
    let mergeMode ← required "merge_mode"
    let selection ← required "selection"
    return { selected, rows, mergeMode, selection }

end CrossConnect.Wire
