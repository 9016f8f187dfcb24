import CrossConnect.Proofs.Editor
import CrossConnect.Proofs.Registry.Operations

/-!
The listing of a structure, which is all that a client sees of the registry, and what the accepted
writes to a single port do to it.
-/
namespace CrossConnect.Registry

open Occupancy

variable {r r' : Registry} {id other : StructureId} {spot : PortSide} {port : PortNumber}
  {row : Splice} {limits : Limits}

theorem mem_listing_iff : row ∈ r.listing id ↔ ∃ port, r.rows.find? (id, port) = some row := by
  simp only [listing, List.mem_map, mem_sortBy, List.mem_filter, decide_eq_true_eq,
    Table.find?_eq_some_iff]
  constructor
  · rintro ⟨⟨⟨_, port⟩, _⟩, ⟨hmem, rfl⟩, rfl⟩
    exact ⟨port, hmem⟩
  · rintro ⟨port, hmem⟩
    exact ⟨((id, port), row), ⟨hmem, rfl⟩, rfl⟩

theorem ascends_listing (h : r.RowsAt) (id : StructureId) : Ascends (r.listing id) := by
  simp only [listing]
  have hperm := sortBy_perm (fun e f => decide (e.1.2 ≤ f.1.2))
    (r.rows.entries.filter fun e => decide (e.1.1 = id))
  have hle := pairwise_sortBy_number (fun e => e.1.2)
    (r.rows.entries.filter fun e => decide (e.1.1 = id))
  generalize sortBy _ _ = entries at hperm hle
  have hnodup : (entries.map (·.1)).Nodup :=
    (hperm.map _).nodup_iff.2 (r.rows.nodup.sublist ((List.filter_sublist ..).map _))
  have hat : ∀ e ∈ entries, e.1.1 = id ∧ e.2.port = e.1.2 := fun e he => by
    obtain ⟨hmem, hid⟩ := List.mem_filter.1 (hperm.mem_iff.1 he)
    exact ⟨of_decide_eq_true hid, (h (Table.find?_eq_some_iff.2 hmem)).2.1⟩
  refine List.pairwise_map.2 ?_
  refine ((hle.and (List.pairwise_map.1 hnodup)).imp_of_mem fun {e f} he hf hef => ?_)
  obtain ⟨hide, hporte⟩ := hat e he
  obtain ⟨hidf, hportf⟩ := hat f hf
  rw [hporte, hportf]
  refine UInt32.lt_of_le_of_ne hef.1 fun heq => hef.2 ?_
  exact Prod.ext (hide.trans hidf.symm) heq

theorem row_listing (h : r.RowsAt) (id : StructureId) (port : PortNumber) :
    Occupancy.row (r.listing id) port = r.rows.find? (id, port) := by
  ext row
  rw [row_eq_some_iff (ascends_listing h id).portsDiffer, mem_listing_iff]
  constructor
  · rintro ⟨⟨found, hfind⟩, rfl⟩
    rw [(h hfind).2.1]
    exact hfind
  · exact fun hfind => ⟨⟨port, hfind⟩, (h hfind).2.1⟩

theorem eq_listing (h : r.RowsAt) {rows : List Splice} (hrows : Ascends rows)
    (hrow : ∀ port, Occupancy.row rows port = r.rows.find? (id, port)) : rows = r.listing id :=
  hrows.ext (ascends_listing h id) fun port => (hrow port).trans (row_listing h id port).symm

theorem listing_congr (h : r.RowsAt) (h' : r'.RowsAt)
    (hrow : ∀ port, r'.rows.find? (id, port) = r.rows.find? (id, port)) :
    r'.listing id = r.listing id :=
  eq_listing h (ascends_listing h' id) fun port => (row_listing h' id port).trans (hrow port)

theorem groupOf_listing (h : r.RowsAt) (id : StructureId) (spot : PortSide) :
    groupOf (r.listing id) spot = (r.endpoint id spot).group := by
  simp only [groupOf, endpoint]
  rw [row_listing h]
  cases r.rows.find? (id, spot.port) <;> rfl

namespace WellFormed

theorem fanOut_of_ungrouped (h : r.WellFormed limits) (hnone : (r.endpoint id spot).group = none) :
    r.fanOut id spot = [spot.port] := by
  rw [h.group_endpoint, Option.map_eq_none_iff] at hnone
  simp only [fanOut]
  rw [hnone]

/-! ### Placing -/

theorem group_place (h : r.WellFormed limits) {p : Placement} (hplace : r.place p = .ok (row, r')) :
    (r'.endpoint other spot).group = (r.endpoint other spot).group := by
  obtain ⟨-, -, fiber, -, rfl⟩ := h.place_eq_ok hplace
  rw [endpoint_writeEndpoints _ _ _ _ h.nodup_fanOut]
  split <;> rfl

theorem find?_place_of_ne (h : r.WellFormed limits) {p : Placement}
    (hplace : r.place p = .ok (row, r')) (hother : other ≠ p.structureId) (port : PortNumber) :
    r'.rows.find? (other, port) = r.rows.find? (other, port) := by
  obtain ⟨-, -, fiber, -, rfl⟩ := h.place_eq_ok hplace
  exact find?_writeEndpoints_of_ne _ _ _ fun hmem => hother hmem.1

theorem listing_place_of_ne (h : r.WellFormed limits) {p : Placement}
    (hplace : r.place p = .ok (row, r')) (hother : other ≠ p.structureId) :
    r'.listing other = r.listing other :=
  listing_congr h.rowsAt (h.place hplace).rowsAt (h.find?_place_of_ne hplace hother)

theorem find?_place (h : r.WellFormed limits) {p : Placement} (hplace : r.place p = .ok (row, r'))
    (hnone : (r.endpoint p.structureId p.spot).group = none) (port : PortNumber) :
    r'.rows.find? (p.structureId, port) =
      if port = p.spot.port then some row else r.rows.find? (p.structureId, port) := by
  obtain ⟨-, hrow, fiber, -, rfl⟩ := h.place_eq_ok hplace
  split
  next hport => rw [hport, hrow]
  next hport =>
    refine find?_writeEndpoints_of_ne _ _ _ fun hmem => hport ?_
    rw [h.fanOut_of_ungrouped hnone] at hmem
    exact List.mem_singleton.1 hmem.2

/-! ### Clearing -/

theorem group_clear (h : r.WellFormed limits) {outcome : ClearOutcome} {cleared : PortSide}
    (hclear : r.clear id cleared = .ok (outcome, r')) :
    (r'.endpoint other spot).group = (r.endpoint other spot).group := by
  rw [(h.clear_fiberChange hclear).endpoint]
  split <;> rfl

theorem find?_clear (h : r.WellFormed limits) {outcome : ClearOutcome}
    (hclear : r.clear id spot = .ok (outcome, r'))
    (hnone : (r.endpoint id spot).group = none) (port : PortNumber) :
    r'.rows.find? (id, port) =
      if port = spot.port then
        ((r.rows.find? (id, port)).map (·.setFiber spot.side none)).filter (!·.isEmpty)
      else r.rows.find? (id, port) := by
  obtain ⟨-, rfl⟩ := clear_eq_ok hclear
  rw [find?_prune, h.fanOut_of_ungrouped hnone]
  change ((r.vacated id spot.side [spot.port]).find? (id, port)).filter _ = _
  rw [find?_vacated]
  simp only [true_and, List.mem_singleton, ne_eq, not_true_eq_false, decide_false, Bool.false_or]
  split
  next => rfl
  next =>
    cases hfind : r.rows.find? (id, port) with
    | none => rfl
    | some found => simp [h.row_filled hfind]

end WellFormed

end CrossConnect.Registry
