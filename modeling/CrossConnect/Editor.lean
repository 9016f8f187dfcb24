import CrossConnect.Occupancy

/-!
The editor: the structure under edit with its ports and rows, and the merge selection. It changes
only through `Editor.apply`, one edit at a time.
-/
namespace CrossConnect

structure SelectedStructure where
  record : Structure
  ports : List Port
deriving DecidableEq, Repr

structure Editor where
  selected : Option SelectedStructure := none
  rows : List Splice := []
  mergeMode : Bool := false
  selection : List PortSide := []
deriving DecidableEq, Repr

namespace Editor

def structureId (editor : Editor) : Option StructureId :=
  editor.selected.map (·.record.id)

def isSelected (editor : Editor) (id : StructureId) : Bool :=
  editor.structureId = some id

def ports (editor : Editor) : List Port :=
  match editor.selected with
  | some selected => selected.ports
  | none => []

def row (editor : Editor) (port : PortNumber) : Option Splice :=
  Occupancy.row editor.rows port

end Editor

inductive Edit
  | load (record : Structure) (ports : List Port) (rows : List Splice)
  | unload
  | replaceRows (structureId : StructureId) (rows : List Splice)
  | place (structureId : StructureId) (spot : PortSide) (fiber : Termination)
  | vacate (structureId : StructureId) (spot : PortSide)
  | confirm (structureId : StructureId) (row : Splice)
  | prune (structureId : StructureId)
  | toggleMergeMode
  | togglePort (spot : PortSide)
  | clearSelection
deriving DecidableEq, Repr

/-- The structure an edit is meant for; it is dropped when another one is selected by then. -/
def Edit.scope : Edit → Option StructureId
  | replaceRows id _ | place id _ _ | vacate id _ | confirm id _ | prune id => some id
  | _ => none

def sortRows (rows : List Splice) : List Splice :=
  sortBy (fun r s => decide (r.port ≤ s.port)) rows

def modifyRow (port : PortNumber) (f : Splice → Splice) : List Splice → List Splice
  | [] => []
  | row :: rows => if row.port = port then f row :: rows else row :: modifyRow port f rows

namespace Editor

def placeOn (structureId : StructureId) (side : Side) (fiber : Termination)
    (rows : List Splice) (ids : IdSource) (port : PortNumber) : List Splice × IdSource :=
  match Occupancy.row rows port with
  | some _ => (modifyRow port (·.setFiber side (some fiber)) rows, ids)
  | none =>
    let (id, ids) := ids.next
    let row : Splice := { id := .temporary id, structureId, port }
    (rows ++ [row.setFiber side (some fiber)], ids)

def placeOnAll (structureId : StructureId) (side : Side) (fiber : Termination) :
    List PortNumber → List Splice → IdSource → List Splice × IdSource
  | [], rows, ids => (rows, ids)
  | port :: ports, rows, ids =>
    let (rows, ids) := placeOn structureId side fiber rows ids port
    placeOnAll structureId side fiber ports rows ids

def confirmRow (row : Splice) (rows : List Splice) : List Splice :=
  if (Occupancy.row rows row.port).isSome then modifyRow row.port (fun _ => row) rows
  else rows ++ [row]

def vacateAll (ports : List PortNumber) (side : Side) (rows : List Splice) : List Splice :=
  rows.map fun row => if ports.contains row.port then row.setFiber side none else row

def toggle (spot : PortSide) (selection : List PortSide) : List PortSide :=
  if spot ∈ selection then selection.erase spot else selection ++ [spot]

def perform (editor : Editor) (ids : IdSource) : Edit → Editor × IdSource
  | .load record ports rows => ({ selected := some ⟨record, ports⟩, rows := sortRows rows }, ids)
  | .unload => ({}, ids)
  | .replaceRows _ rows => ({ editor with rows := sortRows rows }, ids)
  | .place id spot fiber =>
    let (rows, ids) :=
      placeOnAll id spot.side fiber (Occupancy.fanOut editor.rows spot) editor.rows ids
    ({ editor with rows := sortRows rows }, ids)
  | .vacate _ spot =>
    ({ editor with rows := vacateAll (Occupancy.fanOut editor.rows spot) spot.side editor.rows },
      ids)
  | .confirm _ row => ({ editor with rows := sortRows (confirmRow row editor.rows) }, ids)
  | .prune _ => ({ editor with rows := editor.rows.filter (!·.isEmpty) }, ids)
  | .toggleMergeMode => ({ editor with mergeMode := !editor.mergeMode, selection := [] }, ids)
  | .togglePort spot =>
    (if editor.mergeMode then { editor with selection := toggle spot editor.selection } else editor,
      ids)
  | .clearSelection => ({ editor with mergeMode := false, selection := [] }, ids)

def apply (editor : Editor) (ids : IdSource) (edit : Edit) : Editor × IdSource :=
  if edit.scope.all editor.isSelected then editor.perform ids edit else (editor, ids)

end Editor
end CrossConnect
