import CrossConnect.Client.Job
import CrossConnect.Proofs.Edits

/-!
What the edits of the selected structure do to the rows that the client shows, port by port.
-/
namespace CrossConnect

namespace Client

open Occupancy

variable {c : Client} {id : StructureId} {edit : Edit}

theorem selected_apply (hscope : edit.scope = some id) :
    (c.apply edit).editor.selected = c.editor.selected := by
  simp only [apply]
  rcases c.editor.apply_cases c.ids edit with ⟨-, happly⟩ | ⟨-, happly⟩
  · rw [happly]
  · rw [happly]
    exact Editor.selected_perform hscope

theorem editor_apply (hid : c.editor.structureId = some id) (hscope : edit.scope = some id) :
    (c.apply edit).editor = (c.editor.perform c.ids edit).1 := by
  have hselected : edit.scope.all c.editor.isSelected = true := by
    rw [hscope, Option.all_some]
    exact decide_eq_true hid
  simp only [apply, Editor.apply]
  rw [if_pos hselected]

theorem structureId_apply (hscope : edit.scope = some id) :
    (c.apply edit).editor.structureId = c.editor.structureId := by
  simp only [Editor.structureId]
  rw [selected_apply hscope]

variable {rows : List Splice} {spot : PortSide} {fiber : Termination} {port : PortNumber}
  {row : Splice}

theorem rows_replaceRows (hid : c.editor.structureId = some id) (hrows : Ascends rows) :
    (c.apply (.replaceRows id rows)).editor.rows = rows := by
  rw [editor_apply hid rfl]
  exact sortRows_eq_self hrows

theorem ascends_place (spot : PortSide) (fiber : Termination)
    (hid : c.editor.structureId = some id) (h : Ascends c.editor.rows) :
    Ascends (c.apply (.place id spot fiber)).editor.rows := by
  rw [editor_apply hid rfl]
  exact ascends_sortRows (portsDiffer_placeOnAll h.portsDiffer)

theorem groupOf_place (hid : c.editor.structureId = some id) (h : Ascends c.editor.rows)
    (other : PortSide) :
    groupOf (c.apply (.place id spot fiber)).editor.rows other = groupOf c.editor.rows other := by
  rw [editor_apply hid rfl]
  have hplaced : groupOf (Editor.placeOnAll id spot.side fiber (fanOut c.editor.rows spot)
      c.editor.rows c.ids).1 other = groupOf c.editor.rows other := groupOf_placeOnAll other
  rw [← hplaced]
  simp only [groupOf]
  exact congrArg (fun found => Option.bind found (·.group other.side))
    (row_sortRows (portsDiffer_placeOnAll h.portsDiffer))

theorem fanOut_of_ungrouped (hnone : groupOf rows spot = none) :
    fanOut rows spot = [spot.port] := by
  simp only [fanOut]
  rw [hnone]

theorem row_place (hid : c.editor.structureId = some id) (h : Ascends c.editor.rows)
    (hnone : groupOf c.editor.rows spot = none) :
    Occupancy.row (c.apply (.place id spot fiber)).editor.rows port =
      if port = spot.port then
        some ((opened c.editor.rows c.ids id spot.port).setFiber spot.side (some fiber))
      else Occupancy.row c.editor.rows port := by
  rw [editor_apply hid rfl]
  refine (row_sortRows (portsDiffer_placeOnAll h.portsDiffer)).trans ?_
  rw [fanOut_of_ungrouped hnone]
  exact row_placeOn

theorem ascends_vacate (spot : PortSide) (hid : c.editor.structureId = some id)
    (h : Ascends c.editor.rows) : Ascends (c.apply (.vacate id spot)).editor.rows := by
  rw [editor_apply hid rfl]
  exact h.vacateAll _ _

theorem groupOf_vacate (hid : c.editor.structureId = some id) (other : PortSide) :
    groupOf (c.apply (.vacate id spot)).editor.rows other = groupOf c.editor.rows other := by
  rw [editor_apply hid rfl]
  exact groupOf_vacateAll other

theorem row_vacate (hid : c.editor.structureId = some id)
    (hnone : groupOf c.editor.rows spot = none) :
    Occupancy.row (c.apply (.vacate id spot)).editor.rows port =
      (Occupancy.row c.editor.rows port).map fun row =>
        if port = spot.port then row.setFiber spot.side none else row := by
  rw [editor_apply hid rfl]
  change Occupancy.row
    (Editor.vacateAll (fanOut c.editor.rows spot) spot.side c.editor.rows) port = _
  rw [fanOut_of_ungrouped hnone, row_vacateAll]
  simp only [List.mem_singleton]

theorem ascends_confirm (hid : c.editor.structureId = some id) (h : Ascends c.editor.rows) :
    Ascends (c.apply (.confirm id row)).editor.rows := by
  rw [editor_apply hid rfl]
  exact ascends_sortRows (portsDiffer_confirmRow h.portsDiffer)

theorem row_confirm (hid : c.editor.structureId = some id) (h : Ascends c.editor.rows) :
    Occupancy.row (c.apply (.confirm id row)).editor.rows port =
      if port = row.port then some row else Occupancy.row c.editor.rows port := by
  rw [editor_apply hid rfl]
  exact (row_sortRows (portsDiffer_confirmRow h.portsDiffer)).trans row_confirmRow

theorem ascends_prune (hid : c.editor.structureId = some id) (h : Ascends c.editor.rows) :
    Ascends (c.apply (.prune id)).editor.rows := by
  rw [editor_apply hid rfl]
  exact h.filter _

theorem row_prune (hid : c.editor.structureId = some id) (h : Ascends c.editor.rows) :
    Occupancy.row (c.apply (.prune id)).editor.rows port =
      (Occupancy.row c.editor.rows port).filter (!·.isEmpty) := by
  rw [editor_apply hid rfl]
  exact row_filter h.portsDiffer _

end Client

end CrossConnect
