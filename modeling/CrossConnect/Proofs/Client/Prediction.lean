import CrossConnect.Proofs.Client.Edit
import CrossConnect.Proofs.Registry.Transition

/-!
What the editor shows while a write is under way is what the authority makes of it. The editor
spreads a write over the ports whose rows name the same group, the authority over the ports of the
group's record; for a well formed registry these are the same ports.
-/
namespace CrossConnect

open Occupancy

/-! ### The same ports are written -/

namespace Registry.WellFormed

variable {r r' : Registry} {id : StructureId} {spot : PortSide} {port : PortNumber}
  {group : MergeGroup} {key : MergeGroupId} {limits : Limits} (h : r.WellFormed limits)

include h

theorem row_of_group (hkey : r.groups.find? key = some group) (hport : port ∈ group.ports) :
    ∃ row, r.rows.find? (group.structureId, port) = some row := by
  have hcovers : group.Covers group.structureId ⟨port, group.side⟩ := ⟨rfl, rfl, hport⟩
  have hgroup := h.group_iff.2 ⟨group, hkey, hcovers⟩
  cases hrow : r.rows.find? (group.structureId, port) with
  | some row => exact ⟨row, rfl⟩
  | none =>
    rw [endpoint_of_no_row hrow] at hgroup
    cases hgroup

theorem row_of_fanOut (hport : port ∈ r.fanOut id spot) :
    port = spot.port ∨ ∃ row, r.rows.find? (id, port) = some row := by
  refine (h.mem_fanOut_iff.1 hport).imp_right ?_
  rintro ⟨key, group, hkey, ⟨rfl, -, -⟩, hmem⟩
  exact h.row_of_group hkey hmem

theorem fanOut_of_covers (hkey : r.groups.find? key = some group) (hcovers : group.Covers id spot) :
    r.fanOut id spot = group.ports := by
  simp only [Registry.fanOut]
  cases hat : r.groupAt id spot with
  | none => exact absurd hcovers (groupAt_eq_none hat hkey)
  | some found =>
    obtain ⟨key', hkey', hcovers'⟩ := groupAt_eq_some hat
    rw [(h.key_unique hkey hkey' hcovers hcovers').2]

theorem mem_groupPorts_iff (hkey : r.groups.find? key = some group) :
    (∃ row ∈ r.listing group.structureId, row.group group.side = some key ∧ row.port = port) ↔
      port ∈ group.ports := by
  have hcovers : port ∈ group.ports ↔
      (r.endpoint group.structureId ⟨port, group.side⟩).group = some key := by
    rw [h.group_iff]
    refine ⟨fun hport => ⟨group, hkey, rfl, rfl, hport⟩, ?_⟩
    rintro ⟨found, hfound, -, -, hport⟩
    obtain rfl := Option.some.inj (hkey.symm.trans hfound)
    exact hport
  rw [hcovers]
  constructor
  · rintro ⟨row, hrow, hgroup, rfl⟩
    obtain ⟨port, hfind⟩ := mem_listing_iff.1 hrow
    rw [(h.row_at hfind).2.1, endpoint_of_row hfind]
    exact hgroup
  · intro hgroup
    obtain ⟨row, hfind⟩ := h.row_of_group hkey (hcovers.2 hgroup)
    rw [endpoint_of_row hfind] at hgroup
    exact ⟨row, mem_listing_iff.2 ⟨port, hfind⟩, hgroup, (h.row_at hfind).2.1⟩

theorem groupPorts_listing (hkey : r.groups.find? key = some group) :
    groupPorts (r.listing group.structureId) key group.side = group.ports := by
  simp only [groupPorts]
  have hascends : ((r.listing group.structureId).filter (·.group group.side = some key)).Pairwise
      (·.port < ·.port) := (ascends_listing h.rowsAt group.structureId).filter _
  have hports := List.pairwise_map.2 hascends
  rw [sortNumbers_eq_self (hports.imp UInt32.le_of_lt)]
  refine hports.eq_of_mem_iff (h.group_run hkey).pairwise_lt fun port => ?_
  rw [← h.mem_groupPorts_iff hkey]
  simp only [List.mem_map, List.mem_filter, decide_eq_true_eq, and_assoc]

theorem fanOut_listing (id : StructureId) (spot : PortSide) :
    Occupancy.fanOut (r.listing id) spot = r.fanOut id spot := by
  simp only [Occupancy.fanOut, Registry.fanOut]
  rw [groupOf_listing h.rowsAt, h.group_endpoint]
  cases hat : r.groupAt id spot with
  | none => rfl
  | some group =>
    obtain ⟨key, hkey, rfl, hside, -⟩ := groupAt_eq_some hat
    rw [Option.map_some]
    dsimp only
    rw [h.group_id hkey, ← hside]
    exact h.groupPorts_listing hkey

end Registry.WellFormed

/-! ### The editor's side -/

section editor

variable {rows : List Splice} {ports : List PortNumber} {port other : PortNumber} {side : Side}
  {fiber : Termination} {id : StructureId} {ids : IdSource}

theorem row_placeOnAll_of_not (h : other ∉ ports) :
    Occupancy.row (Editor.placeOnAll id side fiber ports rows ids).1 other =
      Occupancy.row rows other := by
  induction ports generalizing rows ids with
  | nil => rfl
  | cons port ports ih =>
    rw [List.mem_cons, not_or] at h
    exact (ih h.2).trans (row_placeOn.trans (if_neg h.1))

theorem row_placeOnAll_of_mem (id : StructureId) (side : Side) (fiber : Termination)
    (rows : List Splice) (ids : IdSource) (hnodup : ports.Nodup) (h : other ∈ ports) :
    ∃ uuid, Occupancy.row (Editor.placeOnAll id side fiber ports rows ids).1 other =
      some (((Occupancy.row rows other).getD
        { id := .temporary uuid, structureId := id, port := other }).setFiber side
          (some fiber)) := by
  induction ports generalizing rows ids with
  | nil => cases h
  | cons port ports ih =>
    obtain ⟨hport, hnodup⟩ := List.nodup_cons.1 hnodup
    by_cases hother : other = port
    · subst hother
      exact ⟨ids.next.1, (row_placeOnAll_of_not hport).trans (row_placeOn.trans (if_pos rfl))⟩
    · obtain ⟨uuid, huuid⟩ := ih (Editor.placeOn id side fiber rows ids port).1
        (Editor.placeOn id side fiber rows ids port).2 hnodup
        ((List.mem_cons.1 h).resolve_left hother)
      rw [row_placeOn, if_neg hother] at huuid
      exact ⟨uuid, huuid⟩

theorem row_placeOnAll_listing {r : Registry} (h : r.RowsAt) (hnodup : ports.Nodup)
    (hold : port ∈ ports → ∃ old, r.rows.find? (id, port) = some old) :
    Occupancy.row (Editor.placeOnAll id side fiber ports (r.listing id) ids).1 port =
      (r.writeEndpoints id side (fun _ e => { e with fiber := some fiber }) ports).rows.find?
        (id, port) := by
  by_cases hport : port ∈ ports
  · obtain ⟨old, hfind⟩ := hold hport
    obtain ⟨_, hplaced⟩ := row_placeOnAll_of_mem id side fiber (r.listing id) ids hnodup hport
    obtain ⟨_, hwritten⟩ := Registry.find?_writeEndpoints_of_mem r id side
      (fun _ e => { e with fiber := some fiber }) hnodup hport
    rw [hplaced, hwritten, Registry.row_listing h, hfind]
    rfl
  · rw [row_placeOnAll_of_not hport, Registry.row_listing h,
      Registry.find?_writeEndpoints_of_ne r _ _ fun hmem => hport hmem.2]

theorem row_map {f : Splice → Splice} (hf : ∀ row, (f row).port = row.port) :
    Occupancy.row (rows.map f) port = (Occupancy.row rows port).map f := by
  simp only [Occupancy.row]
  rw [List.find?_map]
  simp only [Function.comp_def, hf]

theorem Occupancy.Ascends.map {f : Splice → Splice} (h : Ascends rows)
    (hf : ∀ row, (f row).port = row.port) : Ascends (rows.map f) :=
  List.pairwise_map.2 (h.imp fun hlt => by rwa [hf, hf])

end editor

/-- A temporary row with the identity that the authority's answer gives the row of its port. -/
def Splice.identified (answer row : Splice) : Splice :=
  if row.id.isTemporary ∧ row.port = answer.port then { row with id := answer.id } else row

theorem Splice.port_identified (answer row : Splice) : (answer.identified row).port = row.port := by
  rw [identified]
  split <;> rfl

theorem Splice.identified_of_persisted {row : Splice} (h : row.id.isTemporary = false)
    (answer : Splice) : answer.identified row = row := by
  rw [identified, if_neg]
  simp [h]

theorem Splice.identified_of_temporary {uuid : Uuid} {answer : Splice} {id : StructureId}
    (side : Side) (fiber : Option Termination) :
    answer.identified
      (setFiber { id := .temporary uuid, structureId := id, port := answer.port } side fiber) =
        setFiber { id := answer.id, structureId := id, port := answer.port } side fiber := by
  cases side <;> simp [identified, setFiber, mapEndpoint, RowId.isTemporary]

/-! ### Foreseen answers -/

theorem mapM_eq_cons {α β : Type} {f : α → Except Failure β} {as : List α} {b : β} {bs : List β}
    (h : as.mapM f = .ok (b :: bs)) : ∃ a rest, as = a :: rest ∧ f a = .ok b := by
  cases as with
  | nil => cases h
  | cons a as =>
    rw [List.mapM_cons] at h
    simp only [bind_eq_ok] at h
    obtain ⟨first, hfirst, others, -, h⟩ := h
    obtain ⟨rfl, rfl⟩ := List.cons.inj (Except.ok.inj h)
    exact ⟨a, as, rfl, hfirst⟩

section foreseen

variable {r r' : Registry} {id : StructureId} {spot : PortSide} {side : Side} {port : PortNumber}
  {fiber : Termination} {row : Splice} {key : MergeGroupId} {group : MergeGroup} {limits : Limits}
  {c : Client} (h : r.WellFormed limits) (hid : c.editor.structureId = some id)
  (hrows : c.editor.rows = r.listing id)

include h hid hrows

theorem row_apply_place : Occupancy.row (c.apply (.place id spot fiber)).editor.rows port =
    Occupancy.row (Editor.placeOnAll id spot.side fiber (r.fanOut id spot) (r.listing id) c.ids).1
      port := by
  have hlisted := (Registry.ascends_listing h.rowsAt id).portsDiffer
  rw [Client.editor_apply hid rfl, ← h.fanOut_listing, ← hrows]
  rw [← hrows] at hlisted
  exact row_sortRows (portsDiffer_placeOnAll hlisted)

theorem ascends_apply_place : Ascends (c.apply (.place id spot fiber)).editor.rows :=
  Client.ascends_place spot fiber hid (hrows ▸ Registry.ascends_listing h.rowsAt id)

theorem listing_place {p : Placement} (hp : p.structureId = id)
    (hplace : r.place p = .ok (row, r')) :
    ∃ shown, r.terminate p.fiber = .ok shown ∧ r'.listing id =
      (c.apply (.place id p.spot shown)).editor.rows.map row.identified := by
  subst hp
  have h' := h.place hplace
  obtain ⟨-, hrow, shown, hshown, heq⟩ := h.place_eq_ok hplace
  refine ⟨shown, hshown, (Registry.eq_listing h'.rowsAt ((ascends_apply_place h hid hrows).map
    row.port_identified) fun port => ?_).symm⟩
  rw [row_map row.port_identified, row_apply_place h hid hrows]
  by_cases hold : port ∈ r.fanOut p.structureId p.spot →
      ∃ old, r.rows.find? (p.structureId, port) = some old
  · rw [row_placeOnAll_listing h.rowsAt h.nodup_fanOut hold, ← heq]
    cases hfind : r'.rows.find? (p.structureId, port) with
    | none => rfl
    | some written => exact congrArg some (Splice.identified_of_persisted (h'.row_at hfind).2.2 row)
  · -- Only the port of the placement can have been without a row, and its row is the answer.
    obtain ⟨hport, hnone⟩ := Classical.not_imp.1 hold
    obtain rfl : port = p.spot.port := (h.row_of_fanOut hport).resolve_right hnone
    have hnone : r.rows.find? (p.structureId, p.spot.port) = none :=
      Option.eq_none_iff_forall_ne_some.2 fun old hold => hnone ⟨old, hold⟩
    obtain ⟨temporary, htemporary⟩ := row_placeOnAll_of_mem p.structureId p.spot.side shown
      (r.listing p.structureId) c.ids h.nodup_fanOut hport
    obtain ⟨uuid, huuid⟩ := Registry.find?_writeEndpoints_of_mem r p.structureId p.spot.side
      (fun _ e => { e with fiber := some shown }) h.nodup_fanOut hport
    rw [Registry.row_listing h.rowsAt, hnone, Option.getD_none] at htemporary
    rw [← heq, hrow, hnone, Option.getD_none] at huuid
    have hanswer := Option.some.inj huuid
    have hanswered : row.port = p.spot.port := (h'.row_at hrow).2.1
    rw [htemporary, hrow, ← hanswered, Option.map_some, Splice.identified_of_temporary, hanswer]
    simp only [Splice.id_mapEndpoint, Splice.port_mapEndpoint]
    rfl

theorem listing_clear {outcome : ClearOutcome} (hclear : r.clear id spot = .ok (outcome, r')) :
    r'.listing id = ((c.apply (.vacate id spot)).apply (.prune id)).editor.rows := by
  have h' := h.clear hclear
  obtain ⟨-, rfl⟩ := Registry.clear_eq_ok hclear
  have hascends : Ascends c.editor.rows := hrows ▸ Registry.ascends_listing h.rowsAt id
  have hvacated := Client.ascends_vacate spot hid hascends
  have hid' : (c.apply (.vacate id spot)).editor.structureId = some id :=
    (Client.structureId_apply rfl).trans hid
  have hrow : Occupancy.row (c.apply (.vacate id spot)).editor.rows =
      fun port => (r.vacated id spot.side (r.fanOut id spot)).find? (id, port) := by
    funext port
    rw [Client.editor_apply hid rfl, Registry.find?_vacated,
      ← Registry.row_listing h.rowsAt, ← hrows, ← h.fanOut_listing, ← hrows]
    refine Eq.trans row_vacateAll ?_
    simp only [true_and]
  refine (Registry.eq_listing h'.rowsAt (Client.ascends_prune hid' hvacated) fun port => ?_).symm
  rw [Client.row_prune hid' hvacated, hrow, Registry.find?_prune]
  simp

theorem listing_upload {fibers : List FiberRef}
    (hupload : r.upload limits key side fibers = .ok r') (hkey : r.groups.find? key = some group)
    (hgroup : group.structureId = id) :
    ∃ first shown port, fibers.head? = some first ∧ r.terminate first = .ok shown ∧
      group.ports.head? = some port ∧
      r'.listing id = (c.apply (.place id ⟨port, side⟩ shown)).editor.rows := by
  subst hgroup
  have h' := h.upload hupload
  obtain ⟨found, shown, others, hfound, rfl, hshown, -, rfl⟩ := h.upload_eq_ok hupload
  obtain rfl := Option.some.inj (hkey.symm.trans hfound)
  obtain ⟨first, rest, rfl, hfirst⟩ := mapM_eq_cons hshown
  have hsize := (h.group_size hkey).1
  obtain ⟨lowest, hlowest⟩ : ∃ port, group.ports.head? = some port := by
    cases hports : group.ports with
    | nil => simp [hports] at hsize
    | cons port ports => exact ⟨port, rfl⟩
  have hcovers : group.Covers group.structureId ⟨lowest, group.side⟩ :=
    ⟨rfl, rfl, List.mem_of_head? hlowest⟩
  have hfanOut := h.fanOut_of_covers hkey hcovers
  have hnodup := (h.group_run hkey).nodup
  refine ⟨first, shown, lowest, rfl, hfirst, hlowest,
    (Registry.eq_listing h'.rowsAt (ascends_apply_place h hid hrows) fun port => ?_).symm⟩
  rw [row_apply_place h hid hrows, hfanOut]
  change _ = (r.writeEndpoints group.structureId group.side
    (fun _ e => { e with fiber := some shown }) group.ports).rows.find? (group.structureId, port)
  exact row_placeOnAll_listing h.rowsAt hnodup (h.row_of_group hkey)

end foreseen

/-! ### Reachable authorities -/

namespace Server

/-- An editor that shows what the authority lists foresees what it lists after a write: after a
placement up to the identity of a row that was made for it, after a clearing once empty rows are
dropped, and after an upload by placing the first fiber on the first port of the group. -/
theorem listing_foreseen {s : Server} (h : s.Reachable) (hids : s.registry.ids.Distinct)
    {c : Client} {id : StructureId} (hid : c.editor.structureId = some id)
    (hrows : c.editor.rows = s.registry.listing id) :
    (∀ spot fiber row, (s.answer (.place ⟨id, spot, fiber⟩)).1 = .ok row →
      ∃ shown, s.registry.terminate fiber = .ok shown ∧
        (s.answer (.place ⟨id, spot, fiber⟩)).2.registry.listing id =
          (c.apply (.place id spot shown)).editor.rows.map row.identified) ∧
    (∀ spot outcome, (s.answer (.clear id spot)).1 = .ok outcome →
      (s.answer (.clear id spot)).2.registry.listing id =
        ((c.apply (.vacate id spot)).apply (.prune id)).editor.rows) ∧
    ∀ key side fibers group, (s.answer (.upload key side fibers)).1 = .ok () →
      s.registry.groups.find? key = some group → group.structureId = id →
      ∃ first shown port, fibers.head? = some first ∧ s.registry.terminate first = .ok shown ∧
        group.ports.head? = some port ∧
        (s.answer (.upload key side fibers)).2.registry.listing id =
          (c.apply (.place id ⟨port, side⟩ shown)).editor.rows := by
  have hwell := (h.sound hids).wellFormed
  refine ⟨fun spot fiber row hok => ?_, fun spot outcome hok => ?_,
    fun key side fibers group hok hkey hgroup => ?_⟩
  · exact listing_place hwell hid hrows rfl (perform_of_ok hok)
  · exact listing_clear hwell hid hrows (perform_of_ok hok)
  · obtain ⟨r', hupload, heq⟩ := map_eq_ok.1 (perform_of_ok hok)
    obtain rfl := (Prod.mk.inj heq).2
    exact listing_upload hwell hid hrows hupload hkey hgroup

theorem listing_foreseen_after_merge :
    let requests : List Request :=
      [.call (.merge smallTray.id [1, 2] .a),
        .call (.place ⟨smallTray.id, ⟨1, .b⟩, (smallFiber 1).ref⟩)]
    let server := (ofPlan {} smallPlan (.numbered 0 0)).serveAll requests
    let editor : Editor :=
      { selected := some ⟨smallTray, []⟩, rows := server.registry.listing smallTray.id }
    let c : Client := { Client.ofSettings {} (.numbered 1 0) with editor }
    let placement : Placement := ⟨smallTray.id, ⟨3, .a⟩, (smallFiber 2).ref⟩
    ∃ row, (server.answer (.place placement)).1 = .ok row ∧
      ∃ shown, server.registry.terminate placement.fiber = .ok shown ∧
        (server.answer (.place placement)).2.registry.listing smallTray.id =
          (c.apply (.place smallTray.id placement.spot shown)).editor.rows.map row.identified :=
  ⟨_, rfl, (listing_foreseen ⟨_, _, _, _, rfl⟩ (by decide +kernel) rfl rfl).1 _ _ _ rfl⟩

end Server

end CrossConnect
