import CrossConnect.Client.Exchange
import CrossConnect.Client.Merge
import CrossConnect.Proofs.Client.Prediction
import CrossConnect.Proofs.Registry.Commuting

/-!
Merge groups as the rows of a structure show them. A client has no record of a group, but every row
of one names it and its ports, so an editor with the rows of the authority finds the same groups;
and what it reads off its rows is what the authority wants to hear when a group is to be dissolved.
-/
namespace CrossConnect

open Occupancy

def MergeGroup.view (group : MergeGroup) : GroupView where
  group := group.id
  ports := group.ports
  size := UInt64.ofNat group.ports.length
  label := PortRun.label group.ports

/-- The editor reads the merge groups of a structure off its rows as the registry records them. -/
structure Editor.ShowsGroups (editor : Editor) (r : Registry) (id : StructureId) : Prop where
  fanOut : ∀ spot, Occupancy.fanOut editor.rows spot = r.fanOut id spot
  ports : ∀ {key group}, r.groups.find? key = some group → group.structureId = id →
    ∀ side, groupPorts editor.rows key side = if side = group.side then group.ports else []
  side : ∀ {key group}, r.groups.find? key = some group → group.structureId = id →
    groupSide editor.rows key = some group.side
  view : ∀ spot, Client.groupView editor spot = (r.groupAt id spot).map MergeGroup.view

namespace Registry.WellFormed

variable {r r' : Registry} {id : StructureId} {side : Side} {spot : PortSide} {group : MergeGroup}
  {key : MergeGroupId} {limits : Limits} (h : r.WellFormed limits)

include h

theorem any_listing_iff (hkey : r.groups.find? key = some group) :
    (r.listing group.structureId).any (·.group side = some key) = true ↔ side = group.side := by
  simp only [List.any_eq_true, decide_eq_true_eq]
  constructor
  · rintro ⟨row, hrow, hgroup⟩
    obtain ⟨port, hfind⟩ := mem_listing_iff.1 hrow
    have hnamed : (r.endpoint group.structureId ⟨port, side⟩).group = some key := by
      rw [endpoint_of_row hfind]
      exact hgroup
    obtain ⟨found, hfound, -, hside, -⟩ := h.group_iff.1 hnamed
    obtain rfl := Option.some.inj (hkey.symm.trans hfound)
    exact hside.symm
  · rintro rfl
    -- A group has ports, and each of them has a row that names it.
    obtain ⟨port, hport⟩ := List.exists_mem_of_length_pos
      (Nat.lt_of_lt_of_le Nat.zero_lt_two (h.group_size hkey).1)
    obtain ⟨row, hrow, hgroup, -⟩ := (h.mem_groupPorts_iff hkey).2 hport
    exact ⟨row, hrow, hgroup⟩

theorem groupPorts_listing_of_ne (hkey : r.groups.find? key = some group)
    (hside : side ≠ group.side) : groupPorts (r.listing group.structureId) key side = [] := by
  have hnone : (r.listing group.structureId).filter (·.group side = some key) = [] := by
    refine List.filter_eq_nil_iff.2 fun row hrow hgroup => hside ?_
    exact (h.any_listing_iff hkey).1 (List.any_eq_true.2 ⟨row, hrow, hgroup⟩)
  rw [groupPorts, hnone]
  rfl

theorem groupSide_listing (hkey : r.groups.find? key = some group) :
    groupSide (r.listing group.structureId) key = some group.side := by
  have hside : (fun side => (r.listing group.structureId).any (·.group side = some key)) =
      fun side => decide (side = group.side) := by
    funext side
    rw [Bool.eq_iff_iff, h.any_listing_iff hkey, decide_eq_true_eq]
  rw [groupSide, hside]
  cases group.side <;> rfl

omit h in
theorem groupView_eq (h : r.RowsAt) {editor : Editor} (hrows : editor.rows = r.listing id)
    (spot : PortSide) : Client.groupView editor spot = (r.endpoint id spot).group.map fun key =>
      let span := (r.endpoint id spot).span.getD (.ofPorts (groupPorts editor.rows key spot.side))
      { group := key, ports := span.ports, size := span.size, label := span.label } := by
  have hrow : editor.row spot.port = r.rows.find? (id, spot.port) := by
    rw [Editor.row, hrows, row_listing h]
  simp only [Client.groupView, hrow]
  cases hfind : r.rows.find? (id, spot.port) with
  | none =>
    rw [endpoint_of_no_row hfind]
    rfl
  | some row =>
    rw [endpoint_of_row hfind]
    cases hgroup : (row.endpoint spot.side).group with
    | none => simp [Splice.group, hgroup]
    | some key => simp [Splice.group, hgroup]

theorem groupView_listing {editor : Editor} (hrows : editor.rows = r.listing id) (spot : PortSide) :
    Client.groupView editor spot = (r.groupAt id spot).map MergeGroup.view := by
  rw [groupView_eq h.rowsAt hrows, h.group_endpoint]
  cases hat : r.groupAt id spot with
  | none => rfl
  | some group =>
    obtain ⟨key, hkey, hcovers⟩ := groupAt_eq_some hat
    obtain ⟨span, hspan, hports, hsize⟩ := h.span_of_group hkey hcovers
    have hsize : span.size = UInt64.ofNat group.ports.length := by
      rw [← hsize, UInt64.ofNat_toNat]
    simp only [Option.map_some, hspan, Option.getD_some, GroupSpan.label, hports, hsize]
    rfl

theorem showsGroups {editor : Editor} (hrows : editor.rows = r.listing id) :
    editor.ShowsGroups r id := by
  refine ⟨fun spot => ?_, ?_, ?_, h.groupView_listing hrows⟩
  · rw [hrows, h.fanOut_listing]
  · rintro key group hkey rfl side
    rw [hrows]
    split
    next hside => rw [hside, h.groupPorts_listing hkey]
    next hside => exact h.groupPorts_listing_of_ne hkey hside
  · rintro key group hkey rfl
    rw [hrows, h.groupSide_listing hkey]

theorem unmerge_ok (hkey : r.groups.find? key = some group) :
    ∃ r', r.unmerge key group.ports = .ok r' ∧ r'.groups = r.groups.erase key ∧
      r'.structures = r.structures := by
  have hports : sortNumbers group.ports = group.ports := (h.group_run hkey).sortNumbers_eq
  obtain ⟨r', hunmerge⟩ := exists_unmerge hkey hports
  refine ⟨r', hunmerge, ?_, (frame_unmerge hunmerge).structures⟩
  obtain ⟨-, -, -, rfl⟩ := unmerge_eq_ok hunmerge
  rfl

end Registry.WellFormed

/-! ### Writes with a listing after them -/

theorem Server.recorded_eq {s s' : Server} {call : Call} {answer : Except Failure call.Answer}
    (exchanges : List Exchange) (h : s.answer call = (answer, s')) :
    Authority.recorded Server.answer (s, exchanges) call =
      (answer, s', exchanges ++ [⟨call, answer⟩]) := by
  simp only [Authority.recorded, Authority.lossy, h]

namespace Client

section relisted

variable {write : Call} {id : StructureId} {s s' last : Server} (c : Client)

theorem run_relisted {a : write.Answer} {rows : List Splice} (hwrite : s.answer write = (.ok a, s'))
    (hrows : s'.answer (.rowsOf id) = (.ok rows, last)) :
    (Attempt.call write >>= fun _ => Attempt.call (.rowsOf id)).run.run
        (Authority.recorded Server.answer) c (s, []) =
      (.ok rows, c, last, [⟨write, .ok a⟩, ⟨.rowsOf id, .ok rows⟩]) := by
  rw [ExceptT.run_bind, Job.run_bind, Attempt.call, ExceptT.run_mk, Job.run_call,
    Server.recorded_eq [] hwrite]
  dsimp only
  rw [Attempt.call, ExceptT.run_mk, Job.run_call, Server.recorded_eq _ hrows]
  rfl

theorem run_unlisted {e : Failure} (hwrite : s.answer write = (.error e, s')) :
    (Attempt.call write >>= fun _ => Attempt.call (.rowsOf id)).run.run
        (Authority.recorded Server.answer) c (s, []) = (.error e, c, s', [⟨write, .error e⟩]) := by
  rw [ExceptT.run_bind, Job.run_bind, Attempt.call, ExceptT.run_mk, Job.run_call,
    Server.recorded_eq [] hwrite]
  rfl

end relisted

theorem portsOfGroup_eq {editor : Editor} {r : Registry} {id : StructureId} {key : MergeGroupId}
    {group : MergeGroup} (h : editor.ShowsGroups r id) (hkey : r.groups.find? key = some group)
    (hid : group.structureId = id) : portsOfGroup editor key = group.ports := by
  simp only [portsOfGroup, h.side hkey hid, h.ports hkey hid, if_true]

theorem run_unmerge {s : Server} (h : s.Sound) {c : Client} {id : StructureId} {key : MergeGroupId}
    {group : MergeGroup} (hid : c.editor.structureId = some id)
    (hrows : c.editor.rows = s.registry.listing id)
    (hkey : s.registry.groups.find? key = some group) (hgroup : group.structureId = id)
    (hfree : s.failpointFor (.unmerge key group.ports) = none)
    (hfree' : s.failpointFor (.rowsOf id) = none) :
    let (value, left, last, exchanges) :=
      (unmerge key none).run (Authority.recorded Server.answer) c (s, [])
    value = true ∧ exchanges = [⟨.unmerge key group.ports, .ok ()⟩,
        ⟨.rowsOf id, .ok (last.registry.listing id)⟩] ∧
      last.registry.groups = s.registry.groups.erase key ∧
      left.editor.rows = last.registry.listing id := by
  have hports := portsOfGroup_eq (h.wellFormed.showsGroups hrows) hkey hgroup
  have hsize := (h.wellFormed.group_size hkey).1
  obtain ⟨r', hunmerge, hgroups, hstructures⟩ := h.wellFormed.unmerge_ok hkey
  have hknown : ∃ record, s.registry.structures.find? id = some record := by
    obtain ⟨port, hport⟩ := List.exists_mem_of_length_pos (Nat.lt_of_lt_of_le Nat.zero_lt_two hsize)
    exact hgroup ▸ (h.wellFormed.group_ports hkey port hport).known
  have hwrite : s.answer (.unmerge key group.ports) = (.ok (), _) :=
    Server.answer_ok hfree (map_eq_ok.2 ⟨r', hunmerge, rfl⟩)
  have hlisting := Server.answer_listing
    (s := { s with registry := r', log := s.log ++ [.unmerge key group.ports] }) hfree'
    (hstructures ▸ hknown)
  have hremote := run_relisted c hwrite hlisting
  have hsome : group.ports.isEmpty = false := by
    cases hempty : group.ports with
    | nil => simp [hempty] at hsize
    | cons => rfl
  simp only [unmerge, Option.filter_none, Option.getD_none]
  rw [Job.run_bind, Job.run_client]
  dsimp only
  rw [hid, hports]
  simp only [hsome, Bool.false_eq_true, if_false]
  rw [Job.run_bind, hremote]
  exact ⟨rfl, rfl, hgroups,
    rows_replaceRows hid (Registry.ascends_listing (h.wellFormed.unmerge hunmerge).rowsAt id)⟩

end Client

namespace Server

/-- An editor with the rows that the authority lists for a structure shows its merge groups as the
authority has them: what is written together, the ports and the side of each group, and the group of
each port side. To dissolve a group, its name is therefore enough. -/
theorem groups_shown {s : Server} (h : s.Reachable) (hids : s.registry.ids.Distinct) {c : Client}
    {id : StructureId} (hrows : c.editor.rows = s.registry.listing id) :
    c.editor.ShowsGroups s.registry id ∧
    ∀ key group, c.editor.structureId = some id → s.registry.groups.find? key = some group →
      group.structureId = id → s.failpointFor (.unmerge key group.ports) = none →
      s.failpointFor (.rowsOf id) = none →
        let (value, left, last, exchanges) :=
          (Client.unmerge key none).run (Authority.recorded answer) c (s, [])
        value = true ∧ exchanges = [⟨.unmerge key group.ports, .ok ()⟩,
            ⟨.rowsOf id, .ok (last.registry.listing id)⟩] ∧
          last.registry.groups = s.registry.groups.erase key ∧
          left.editor.rows = last.registry.listing id := by
  have hsound := h.sound hids
  refine ⟨hsound.wellFormed.showsGroups hrows, fun key group hid hkey hgroup hfree hfree' => ?_⟩
  exact Client.run_unmerge hsound hid hrows hkey hgroup hfree hfree'

def interlocked : Server :=
  (ofPlan {} smallPlan (.numbered 0 0)).serveAll
    [.call (.merge smallTray.id [2, 1] .a), .call (.merge smallTray.id [3, 2] .b)]

theorem groups_shown_interlocked :
    let c : Client := { Client.ofSettings {} (.numbered 1 0) with editor :=
      { selected := some ⟨smallTray, []⟩, rows := interlocked.registry.listing smallTray.id } }
    let out := (Client.unmerge ⟨⟨3⟩⟩ none).run (Authority.recorded answer) c (interlocked, [])
    ([Side.a, .b].map fun side => (Client.groupView c.editor ⟨2, side⟩).map (·.label)) =
        [some "1-2", some "2-3"] ∧
      c.editor.ShowsGroups interlocked.registry smallTray.id ∧ out.1 = true ∧
      (out.2.2.1.registry.groupAt smallTray.id ⟨2, .a⟩).isNone := by
  intro c out
  have hids : interlocked.registry.ids.Distinct := by decide +kernel
  have hkey : interlocked.registry.groups.find? ⟨⟨3⟩⟩ =
      some { id := ⟨⟨3⟩⟩, structureId := smallTray.id, side := .a, ports := [1, 2],
             fibers := [] } := by
    decide +kernel
  obtain ⟨hshows, hunmerge⟩ := groups_shown ⟨_, _, _, _, rfl⟩ hids (Eq.refl c.editor.rows)
  have hout := hunmerge _ _ rfl hkey rfl (by decide +kernel) (by decide +kernel)
  exact ⟨by decide +kernel, hshows, hout.1, by decide +kernel⟩

end Server
end CrossConnect
