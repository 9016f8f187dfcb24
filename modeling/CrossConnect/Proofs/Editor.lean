import CrossConnect.Editor
import Mathlib

/-!
Rows of one structure, in ascending order of their ports, are determined by looking up each port.
Every edit of the rows is described by what it does to that look-up.
-/
namespace CrossConnect

namespace Occupancy

variable {rows rows' : List Splice} {port : PortNumber} {row' : Splice}

def Ascends (rows : List Splice) : Prop :=
  rows.Pairwise (·.port < ·.port)

def PortsDiffer (rows : List Splice) : Prop :=
  (rows.map (·.port)).Nodup

theorem Ascends.portsDiffer (h : Ascends rows) : PortsDiffer rows :=
  List.pairwise_map.2 (h.imp fun hlt => UInt32.ne_of_lt hlt)

theorem port_of_row (h : row rows port = some row') : row'.port = port := by
  have := List.find?_some h
  exact of_decide_eq_true this

theorem row_eq_some_iff (h : PortsDiffer rows) :
    row rows port = some row' ↔ row' ∈ rows ∧ row'.port = port := by
  refine ⟨fun hrow => ⟨List.mem_of_find?_eq_some hrow, port_of_row hrow⟩, ?_⟩
  rintro ⟨hmem, rfl⟩
  induction rows with
  | nil => cases hmem
  | cons first rows ih =>
    simp only [PortsDiffer] at h
    rw [List.map_cons, List.nodup_cons] at h
    obtain ⟨hfirst, hrows⟩ := h
    rcases List.mem_cons.1 hmem with rfl | hmem
    · simp [row]
    · have hne : first.port ≠ row'.port := fun heq =>
        hfirst (List.mem_map.2 ⟨row', hmem, heq.symm⟩)
      rw [← ih hrows hmem]
      simp [row, hne]

theorem row_perm (h : PortsDiffer rows) (hperm : rows'.Perm rows) :
    row rows' port = row rows port := by
  have h' : PortsDiffer rows' := (hperm.map _).nodup_iff.2 h
  ext row'
  rw [row_eq_some_iff h, row_eq_some_iff h', hperm.mem_iff]

theorem Ascends.ext (h : Ascends rows) (h' : Ascends rows')
    (hrow : ∀ port, row rows port = row rows' port) : rows = rows' := by
  have hperm : rows.Perm rows' := by
    refine (List.perm_ext_iff_of_nodup h.portsDiffer.of_map h'.portsDiffer.of_map).2 fun r => ?_
    have := Iff.of_eq (congrArg (· = some r) (hrow r.port))
    rwa [row_eq_some_iff h.portsDiffer, row_eq_some_iff h'.portsDiffer, and_iff_left rfl,
      and_iff_left rfl] at this
  exact hperm.eq_of_pairwise (fun _ _ _ _ hab hba => absurd hba (UInt32.lt_asymm hab)) h h'

end Occupancy

open Occupancy

variable {rows : List Splice} {port other : PortNumber} {side : Side} {fiber : Termination}
  {id : StructureId} {ids : IdSource}

/-! ### Sorting -/

theorem pairwise_sortRows (rows : List Splice) : (sortRows rows).Pairwise (·.port ≤ ·.port) :=
  pairwise_sortBy_number Splice.port rows

theorem ascends_sortRows (h : PortsDiffer rows) : Ascends (sortRows rows) :=
  ascends_sortBy_number Splice.port h

theorem row_sortRows (h : PortsDiffer rows) : row (sortRows rows) port = row rows port :=
  row_perm h (sortBy_perm _ rows)

theorem sortRows_eq_self (h : Ascends rows) : sortRows rows = rows :=
  sortBy_eq_self (h.imp fun hlt => decide_eq_true (UInt32.le_of_lt hlt))

/-! ### Single rows -/

theorem map_port_modifyRow {f : Splice → Splice} (hf : ∀ r, r.port = port → (f r).port = port) :
    (modifyRow port f rows).map (·.port) = rows.map (·.port) := by
  induction rows with
  | nil => rfl
  | cons first rows ih =>
    simp only [modifyRow]
    split
    next hport => rw [List.map_cons, List.map_cons, hf first hport, hport]
    next => rw [List.map_cons, List.map_cons, ih]

theorem row_modifyRow {f : Splice → Splice} (hf : ∀ r, r.port = port → (f r).port = port) :
    row (modifyRow port f rows) other =
      if other = port then (row rows port).map f else row rows other := by
  induction rows with
  | nil => simp [modifyRow, row]
  | cons first rows ih =>
    simp only [modifyRow]
    by_cases hport : first.port = port
    · rw [if_pos hport]
      by_cases hother : other = port
      · subst hother
        simp [row, hport, hf first hport]
      · have hfirst : first.port ≠ other := fun h => hother (h.symm.trans hport)
        have hnew : (f first).port ≠ other := fun h => hother (h.symm.trans (hf first hport))
        simp [row, hother, hfirst, hnew]
    · rw [if_neg hport]
      by_cases hother : first.port = other
      · have hne : other ≠ port := fun h => hport (hother.trans h)
        simp [row, hother, hne]
      · have hrest :
            row (first :: modifyRow port f rows) other = row (modifyRow port f rows) other := by
          simp [row, hother]
        rw [hrest, ih]
        simp [row, hother, hport]

theorem row_append_single {row' : Splice} (hnone : row rows row'.port = none) :
    row (rows ++ [row']) other = if other = row'.port then some row' else row rows other := by
  simp only [row] at hnone ⊢
  rw [List.find?_append]
  by_cases hother : other = row'.port
  · simp [hother, hnone]
  · have hne : row'.port ≠ other := fun h => hother h.symm
    simp [hother, hne]

theorem portsDiffer_append_single {row' : Splice} (h : PortsDiffer rows)
    (hnone : row rows row'.port = none) : PortsDiffer (rows ++ [row']) := by
  simp only [PortsDiffer]
  rw [List.map_append, List.nodup_append]
  refine ⟨h, by simp, ?_⟩
  rintro a ha b hb rfl
  obtain ⟨r, hr, heq⟩ := List.mem_map.1 ha
  have hno := List.find?_eq_none.1 hnone r hr
  simp_all

/-! ### The fiber of one port -/

def opened (rows : List Splice) (ids : IdSource) (id : StructureId) (port : PortNumber) : Splice :=
  (row rows port).getD { id := .temporary ids.next.1, structureId := id, port }

@[simp] theorem port_setFiber (r : Splice) (side : Side) (fiber : Option Termination) :
    (r.setFiber side fiber).port = r.port :=
  Splice.port_mapEndpoint ..

theorem row_placeOn :
    row (Editor.placeOn id side fiber rows ids port).1 other =
      if other = port then some ((opened rows ids id port).setFiber side (some fiber))
      else row rows other := by
  simp only [Editor.placeOn, opened]
  cases h : row rows port with
  | some found =>
    rw [row_modifyRow fun r hr => (port_setFiber r side (some fiber)).trans hr, h]
    rfl
  | none =>
    refine (row_append_single ?_).trans ?_
    · rw [port_setFiber]
      exact h
    · rw [port_setFiber]
      rfl

theorem portsDiffer_placeOn (h : PortsDiffer rows) :
    PortsDiffer (Editor.placeOn id side fiber rows ids port).1 := by
  simp only [Editor.placeOn]
  cases hrow : row rows port with
  | some found =>
    simp only [PortsDiffer]
    rw [map_port_modifyRow fun r hr => (port_setFiber r side (some fiber)).trans hr]
    exact h
  | none =>
    refine portsDiffer_append_single h ?_
    rw [port_setFiber]
    exact hrow

theorem group_setFiber (r : Splice) (s : Side) (fiber : Option Termination) :
    (r.setFiber side fiber).group s = r.group s := by
  simp only [Splice.setFiber, Splice.group]
  rw [Splice.endpoint_mapEndpoint]
  split <;> rfl

theorem groupOf_placeOn (spot : PortSide) :
    groupOf (Editor.placeOn id side fiber rows ids port).1 spot = groupOf rows spot := by
  simp only [groupOf]
  rw [row_placeOn]
  split
  next hport =>
    rw [hport, Option.bind_some, group_setFiber]
    simp only [opened]
    cases row rows port with
    | some found => rfl
    | none => cases spot.side <;> rfl
  next => rfl

theorem portsDiffer_placeOnAll {ports : List PortNumber} (h : PortsDiffer rows) :
    PortsDiffer (Editor.placeOnAll id side fiber ports rows ids).1 := by
  induction ports generalizing rows ids with
  | nil => exact h
  | cons port ports ih => exact ih (portsDiffer_placeOn h)

theorem groupOf_placeOnAll {ports : List PortNumber} (spot : PortSide) :
    groupOf (Editor.placeOnAll id side fiber ports rows ids).1 spot = groupOf rows spot := by
  induction ports generalizing rows ids with
  | nil => rfl
  | cons port ports ih => exact ih.trans (groupOf_placeOn spot)

/-! ### Confirming, vacating, pruning -/

theorem row_confirmRow {row' : Splice} :
    row (Editor.confirmRow row' rows) other =
      if other = row'.port then some row' else row rows other := by
  simp only [Editor.confirmRow]
  cases h : row rows row'.port with
  | some found =>
    rw [Option.isSome_some, if_pos rfl, row_modifyRow fun _ _ => rfl, h]
    rfl
  | none => exact row_append_single h

theorem portsDiffer_confirmRow {row' : Splice} (h : PortsDiffer rows) :
    PortsDiffer (Editor.confirmRow row' rows) := by
  simp only [Editor.confirmRow]
  split
  next =>
    simp only [PortsDiffer]
    rw [map_port_modifyRow fun _ _ => rfl]
    exact h
  next hnone => exact portsDiffer_append_single h (by simpa using hnone)

theorem row_vacateAll {ports : List PortNumber} :
    row (Editor.vacateAll ports side rows) port =
      (row rows port).map fun r => if port ∈ ports then r.setFiber side none else r := by
  induction rows with
  | nil => rfl
  | cons first rows ih =>
    simp only [Editor.vacateAll, row] at ih ⊢
    have hkept : ∀ r : Splice,
        (if ports.contains r.port then r.setFiber side none else r).port = r.port := fun r => by
      split
      · exact port_setFiber ..
      · rfl
    rw [List.map_cons, List.find?_cons, List.find?_cons, hkept]
    by_cases hport : first.port = port
    · subst hport
      simp
    · simp only [hport, decide_false]
      exact ih

theorem map_port_vacateAll {ports : List PortNumber} :
    (Editor.vacateAll ports side rows).map (·.port) = rows.map (·.port) := by
  simp only [Editor.vacateAll]
  rw [List.map_map]
  refine List.map_congr_left fun r _ => ?_
  simp only [Function.comp_apply]
  split
  · exact port_setFiber ..
  · rfl

theorem Occupancy.Ascends.vacateAll (h : Ascends rows) (ports : List PortNumber) (side : Side) :
    Ascends (Editor.vacateAll ports side rows) := by
  refine List.pairwise_map.1 ?_
  rw [map_port_vacateAll]
  exact List.pairwise_map.2 h

theorem groupOf_vacateAll {ports : List PortNumber} (spot : PortSide) :
    groupOf (Editor.vacateAll ports side rows) spot = groupOf rows spot := by
  simp only [groupOf]
  rw [row_vacateAll, Option.bind_map]
  congr 1
  funext r
  simp only [Function.comp_apply]
  split
  · exact group_setFiber ..
  · rfl

theorem row_filter (h : PortsDiffer rows) (keep : Splice → Bool) :
    row (rows.filter keep) port = (row rows port).filter keep := by
  have h' : PortsDiffer (rows.filter keep) := h.sublist ((List.filter_sublist ..).map _)
  ext row'
  rw [row_eq_some_iff h', Option.filter_eq_some_iff, row_eq_some_iff h, List.mem_filter]
  tauto

theorem Occupancy.Ascends.filter (h : Ascends rows) (keep : Splice → Bool) :
    Ascends (rows.filter keep) :=
  List.Pairwise.filter keep h

/-! ### Every row -/

section every

variable {p : Splice → Prop} (h : ∀ row ∈ rows, p row)

include h

theorem forall_modifyRow {f : Splice → Splice} (hf : ∀ row, p row → p (f row)) :
    ∀ row ∈ modifyRow port f rows, p row := by
  induction rows with
  | nil => exact h
  | cons first rows ih =>
    obtain ⟨hfirst, hrows⟩ := List.forall_mem_cons.1 h
    simp only [modifyRow]
    split
    · exact List.forall_mem_cons.2 ⟨hf first hfirst, hrows⟩
    · exact List.forall_mem_cons.2 ⟨hfirst, ih hrows⟩

theorem forall_concat {row' : Splice} (hrow : p row') : ∀ row ∈ rows ++ [row'], p row := by
  simpa [or_imp, forall_and] using ⟨h, hrow⟩

theorem forall_placeOnAll (hfiber : ∀ row, p row → p (row.setFiber side (some fiber)))
    (hblank : ∀ uuid port, p { id := .temporary uuid, structureId := id, port })
    (ports : List PortNumber) :
    ∀ row ∈ (Editor.placeOnAll id side fiber ports rows ids).1, p row := by
  induction ports generalizing rows ids with
  | nil => exact h
  | cons port ports ih =>
    refine ih ?_
    split
    · exact forall_modifyRow h hfiber
    · exact forall_concat h (hfiber _ (hblank _ _))

theorem forall_confirmRow {row' : Splice} (hrow : p row') :
    ∀ row ∈ Editor.confirmRow row' rows, p row := by
  simp only [Editor.confirmRow]
  split
  · exact forall_modifyRow h fun _ _ => hrow
  · exact forall_concat h hrow

theorem forall_vacateAll (hfiber : ∀ row, p row → p (row.setFiber side none))
    (ports : List PortNumber) : ∀ row ∈ Editor.vacateAll ports side rows, p row := by
  intro row hrow
  obtain ⟨old, hold, rfl⟩ := List.mem_map.1 hrow
  split
  · exact hfiber old (h old hold)
  · exact h old hold

theorem forall_sortRows : ∀ row ∈ sortRows rows, p row :=
  fun row hrow => h row ((sortBy_perm _ rows).mem_iff.1 hrow)

end every

end CrossConnect
