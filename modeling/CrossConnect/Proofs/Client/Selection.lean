import CrossConnect.Proofs.Client.FillPlan
import CrossConnect.Proofs.Client.Groups
import CrossConnect.Proofs.Client.Operations
import CrossConnect.Proofs.Registry.Growing

/-!
Which port sides can be merged is decided twice: by a client, from the ports and rows it has loaded,
and by the authority, from its component types and the record of merge groups. The two agree on
everything but the size of a group, for which each has a limit of its own.
-/
namespace CrossConnect

open Occupancy

/-- The ports and rows of a structure in an editor are those of the registry. -/
structure Editor.Mirrors (editor : Editor) (r : Registry) (id : StructureId) : Prop where
  structureId : editor.structureId = some id
  ports : ∃ record, r.structures.find? id = some record ∧ editor.ports = r.portsAt record
  rows : editor.rows = r.listing id

def chosenPorts (selection : List PortSide) : List PortNumber :=
  sortNumbers (selection.map (·.port))

/-- The port sides can become a merge group of a structure, as far as a limit on its size allows. -/
structure Registry.Mergeable (r : Registry) (id : StructureId) (selection : List PortSide)
    (limit : Option Nat) (side : Side) : Prop where
  oneSide : ∀ spot ∈ selection, spot.side = side
  enough : 2 ≤ selection.length
  within : ∀ most ∈ limit, selection.length ≤ most
  run : ∃ lowest, (selection.map (·.port.toNat)).Perm (List.range' lowest selection.length)
  ports : ∀ spot ∈ selection, r.HasPort id spot
  free : ∀ spot ∈ selection, r.groupAt id spot = none

/-! ### The two checks -/

section checks

variable {r : Registry} {id id' : StructureId} {side : Side} {spot : PortSide} {port : PortNumber}
  {ports : List PortNumber} {selection : List PortSide} {editor : Editor} {limits : Limits}
  {limit : Option Nat}

theorem Port.side_eq_iff {port : Port} : port.side = side ↔ port.direction = side.direction := by
  rw [Port.side]
  cases port.direction <;> cases side <;> decide

theorem Registry.mem_sidePorts_iff {record : Structure} (h : r.structures.find? id = some record) :
    port ∈ sidePorts (r.portsAt record) side ↔ r.HasPort id ⟨port, side⟩ := by
  simp only [sidePorts, mem_ascending, List.mem_map, List.mem_filter, decide_eq_true_eq,
    Registry.HasPort, h, Option.some.injEq, exists_and_left, exists_eq_left', Registry.portsAt]
  cases record.componentType with
  | none => simp
  | some typeId =>
    cases hcomponent : r.componentTypes.find? typeId with
    | none => simp [hcomponent]
    | some component => simp [hcomponent, Port.side_eq_iff, and_comm, and_left_comm]

@[simp] theorem length_chosenPorts (selection : List PortSide) :
    (chosenPorts selection).length = selection.length := by
  rw [chosenPorts, sortNumbers, length_sortBy, List.length_map]

@[simp] theorem mem_chosenPorts :
    port ∈ chosenPorts selection ↔ ∃ spot ∈ selection, spot.port = port := by
  rw [chosenPorts, sortNumbers, mem_sortBy, List.mem_map]

theorem isRun_chosenPorts_iff : PortRun.IsRun (chosenPorts selection) ↔
    ∃ lowest, (selection.map (·.port.toNat)).Perm (List.range' lowest selection.length) := by
  rw [chosenPorts, PortRun.isRun_sortNumbers_iff, List.map_map, List.length_map]
  rfl

namespace Registry

theorem requireUngrouped_iff : r.requireUngrouped id side ports = .ok () ↔
    ∀ port ∈ ports, r.HasPort id ⟨port, side⟩ ∧ r.groupAt id ⟨port, side⟩ = none :=
  ⟨fun h _ => requireUngrouped_eq_ok h, requireUngrouped_ok⟩

theorem requireUngrouped_chosenPorts_iff (hside : ∀ spot ∈ selection, spot.side = side) :
    r.requireUngrouped id side (chosenPorts selection) = .ok () ↔
      (∀ spot ∈ selection, r.HasPort id spot) ∧ ∀ spot ∈ selection, r.groupAt id spot = none := by
  rw [requireUngrouped_iff, ← forall₂_and]
  simp only [mem_chosenPorts, forall_exists_index, and_imp, forall_apply_eq_imp_iff₂]
  exact forall₂_congr fun spot hspot => by rw [← hside spot hspot]

theorem exists_merge_iff : (∃ a, r.merge limits id ports side = .ok a) ↔
    ∃ sorted, PortRun.validate ports (some limits.groupSize) = .ok sorted ∧
      r.requireUngrouped id side sorted = .ok () := by
  simp only [merge, bind_eq_ok]
  constructor
  · rintro ⟨_, sorted, hsorted, ⟨⟩, hungrouped, -⟩
    exact ⟨sorted, hsorted, hungrouped⟩
  · rintro ⟨sorted, hsorted, hungrouped⟩
    exact ⟨_, sorted, hsorted, (), hungrouped, rfl⟩

theorem Mergeable.accepted_iff (h : r.Mergeable id selection limit side) :
    (∃ a, r.merge limits id (chosenPorts selection) side = .ok a) ↔
      selection.length ≤ limits.groupSize := by
  have hrun := isRun_chosenPorts_iff.2 h.run
  simp only [exists_merge_iff, PortRun.validate_eq_ok_iff, hrun.sortNumbers_eq, length_chosenPorts,
    Option.mem_some_iff, forall_eq']
  constructor
  · rintro ⟨-, ⟨-, hsize, -, -⟩, -⟩
    exact hsize
  · intro hsize
    refine ⟨_, ⟨h.enough, hsize, hrun, rfl⟩, ?_⟩
    exact (requireUngrouped_chosenPorts_iff h.oneSide).2 ⟨h.ports, h.free⟩

end Registry

namespace Client

theorem requirePort_eq_ok :
    requirePort editor spot = .ok () ↔ spot.port ∈ sidePorts editor.ports spot.side := by
  rw [requirePort]
  split <;> simp_all

theorem requireUnmerged_iff : requireUnmerged editor side ports = .ok () ↔
    ∀ port ∈ ports, port ∈ sidePorts editor.ports side ∧
      groupOf editor.rows ⟨port, side⟩ = none := by
  induction ports with
  | nil => exact ⟨fun _ => List.forall_mem_nil _, fun _ => rfl⟩
  | cons port ports ih =>
    rw [List.forall_mem_cons, ← ih]
    simp only [requireUnmerged, bind_eq_ok]
    constructor
    · rintro ⟨⟨⟩, hport, h⟩
      split at h
      · simp [bind, Except.bind] at h
      next hgroup => exact ⟨⟨requirePort_eq_ok.1 hport, by simpa using hgroup⟩, h⟩
    · rintro ⟨⟨hport, hgroup⟩, h⟩
      refine ⟨(), requirePort_eq_ok.2 hport, ?_⟩
      rw [hgroup]
      exact h

end Client

namespace Editor.Mirrors

variable (h : editor.Mirrors r id) (hr : r.WellFormed limits)

include h hr

theorem requireUnmerged_iff : Client.requireUnmerged editor side ports = .ok () ↔
    r.requireUngrouped id side ports = .ok () := by
  obtain ⟨record, hrecord, hports⟩ := h.ports
  rw [Client.requireUnmerged_iff, Registry.requireUngrouped_iff]
  refine forall₂_congr fun port _ => and_congr ?_ ?_
  · rw [hports, Registry.mem_sidePorts_iff hrecord]
  · rw [h.rows, Registry.groupOf_listing hr.rowsAt, hr.group_endpoint, Option.map_eq_none_iff]

theorem checkSelection_iff : Client.checkSelection editor limit = .ok (id', side, ports) ↔
    id' = id ∧ ports = chosenPorts editor.selection ∧
      r.Mergeable id editor.selection limit side := by
  rw [checkSelection_eq_ok_iff, h.requireUnmerged_iff hr, h.structureId,
    PortRun.validate_eq_ok_iff, List.length_map, ← chosenPorts, isRun_chosenPorts_iff]
  constructor
  · rintro ⟨hid, -, hside, ⟨htwo, hwithin, hrun, rfl⟩, hungrouped⟩
    obtain ⟨hports, hfree⟩ := (Registry.requireUngrouped_chosenPorts_iff hside).1 hungrouped
    exact ⟨(Option.some.inj hid).symm, rfl, hside, htwo, hwithin, hrun, hports, hfree⟩
  · rintro ⟨rfl, rfl, hmerge⟩
    refine ⟨rfl, ?_, hmerge.oneSide, ⟨hmerge.enough, hmerge.within, hmerge.run, rfl⟩, ?_⟩
    · exact List.ne_nil_of_length_pos (Nat.lt_of_lt_of_le Nat.zero_lt_two hmerge.enough)
    · exact (Registry.requireUngrouped_chosenPorts_iff hmerge.oneSide).2 ⟨hmerge.ports, hmerge.free⟩

end Editor.Mirrors

end checks

/-! ### A merge from the check to the new rows -/

namespace Client

/-- What merging the chosen port sides comes to: when it is asked for and when it is accepted, and
what is left in the editor. -/
structure Merges (c : Client) (s : Server) (id : StructureId) (merged : Bool) (left : Client)
    (exchanges : List Exchange) : Prop where
  sent : (∃ e ∈ exchanges, e.call.isWrite = true) ↔
    ∃ side, s.registry.Mergeable id c.editor.selection c.settings.maxGroupSize side
  asks : ∀ e ∈ exchanges, e.call.isWrite = true → ∃ side,
    s.registry.Mergeable id c.editor.selection c.settings.maxGroupSize side ∧
      e.call = .merge id (chosenPorts c.editor.selection) side
  accepted : ∀ e ∈ exchanges, e.call.isWrite = true →
    (e.succeeded = true ↔ c.editor.selection.length ≤ s.limits.groupSize)
  done : ∀ e ∈ exchanges, e.isAccepted = true →
    merged = true ∧ left.editor.mergeMode = false ∧ left.editor.selection = [] ∧
      ∃ key, ∀ spot ∈ c.editor.selection, groupOf left.editor.rows spot = some key ∧
        groupPorts left.editor.rows key spot.side = chosenPorts c.editor.selection
  kept : (∀ e ∈ exchanges, e.isAccepted = false) → merged = false ∧ left.editor = c.editor

variable {c : Client} {s : Server} {id : StructureId} {side : Side} {ports : List PortNumber}
  {e : Failure}

theorem run_unsent (hcheck : checkSelection c.editor c.settings.maxGroupSize = .error e) :
    mergeSelected.run (Authority.recorded Server.answer) c (s, []) =
      (false, c.notify (.ofFailure "Cannot merge ports" e), s, []) := by
  rw [mergeSelected, Job.run_bind, Job.run_client]
  dsimp only
  rw [hcheck]
  rfl

section checked

variable (hcheck : checkSelection c.editor c.settings.maxGroupSize = .ok (id, side, ports))
  (hfree : s.failpointFor (.merge id ports side) = none)

include hcheck hfree

theorem run_refused (hmerge : s.registry.merge s.limits id ports side = .error e) :
    ∃ left last, mergeSelected.run (Authority.recorded Server.answer) c (s, []) =
        (false, left, last, [⟨.merge id ports side, .error e⟩]) ∧ left.editor = c.editor := by
  have hwrite := Server.answer_error hfree (congrArg (Except.map _) hmerge)
  rw [mergeSelected, Job.run_bind, Job.run_client]
  dsimp only
  rw [hcheck]
  dsimp only
  rw [Job.run_bind, run_unlisted c hwrite]
  exact ⟨_, _, rfl, rfl⟩

theorem run_merged {r : Registry} {key : MergeGroupId} (hfree' : s.failpointFor (.rowsOf id) = none)
    (hknown : ∃ record, r.structures.find? id = some record)
    (hmerge : s.registry.merge s.limits id ports side = .ok (key, r)) :
    ∃ left last, mergeSelected.run (Authority.recorded Server.answer) c (s, []) =
        (true, left, last, [⟨.merge id ports side, .ok ()⟩, ⟨.rowsOf id, .ok (r.listing id)⟩]) ∧
      last.registry = r ∧ left.editor = { (c.apply (.replaceRows id (r.listing id))).editor with
        mergeMode := false, selection := [] } := by
  have hwrite := Server.answer_ok hfree (map_eq_ok.2 ⟨_, hmerge, rfl⟩)
  have hrows := Server.answer_listing
    (s := { s with registry := r, log := s.log ++ [.merge id ports side] }) hfree' hknown
  rw [mergeSelected, Job.run_bind, Job.run_client]
  dsimp only
  rw [hcheck]
  dsimp only
  rw [Job.run_bind, run_relisted c hwrite hrows]
  exact ⟨_, _, rfl, rfl, rfl⟩

end checked

theorem merges_unsent {left : Client} (hsame : left.editor = c.editor)
    (hnone : ¬∃ side, s.registry.Mergeable id c.editor.selection c.settings.maxGroupSize side) :
    Merges c s id false left [] where
  sent := iff_of_false (by simp) hnone
  asks := List.forall_mem_nil _
  accepted := List.forall_mem_nil _
  done := List.forall_mem_nil _
  kept := fun _ => ⟨rfl, hsame⟩

section mergeable

variable (hmerge : s.registry.Mergeable id c.editor.selection c.settings.maxGroupSize side)

include hmerge

theorem merges_refused {left : Client} (hsame : left.editor = c.editor)
    (hsize : ¬c.editor.selection.length ≤ s.limits.groupSize) :
    Merges c s id false left
      [⟨.merge id (chosenPorts c.editor.selection) side, .error e⟩] where
  sent := iff_of_true ⟨_, List.mem_singleton_self _, rfl⟩ ⟨side, hmerge⟩
  asks := List.forall_mem_singleton.2 fun _ => ⟨side, hmerge, rfl⟩
  accepted := List.forall_mem_singleton.2 fun _ =>
    iff_of_false (by simp [Exchange.succeeded, Exchange.failure?]) hsize
  done := List.forall_mem_singleton.2 fun h => by
    simp [Exchange.isAccepted, Exchange.succeeded, Exchange.failure?] at h
  kept := fun _ => ⟨rfl, hsame⟩

theorem merges_accepted {left : Client} {rows : List Splice} {key : MergeGroupId}
    (hsize : c.editor.selection.length ≤ s.limits.groupSize) (hmode : left.editor.mergeMode = false)
    (hselection : left.editor.selection = [])
    (hshown : ∀ spot ∈ c.editor.selection, groupOf left.editor.rows spot = some key ∧
      groupPorts left.editor.rows key spot.side = chosenPorts c.editor.selection) :
    Merges c s id true left
      [⟨.merge id (chosenPorts c.editor.selection) side, .ok ()⟩,
        ⟨.rowsOf id, .ok rows⟩] where
  sent := iff_of_true ⟨_, List.mem_cons_self, rfl⟩ ⟨side, hmerge⟩
  asks := List.forall_mem_cons.2 ⟨fun _ => ⟨side, hmerge, rfl⟩, by simp [Call.isWrite]⟩
  accepted := by simpa [Call.isWrite, Exchange.succeeded, Exchange.failure?] using hsize
  done := fun _ _ _ => ⟨rfl, hmode, hselection, key, hshown⟩
  kept := fun h => by
    have := h _ List.mem_cons_self
    simp [Exchange.isAccepted, Call.isWrite, Exchange.succeeded, Exchange.failure?] at this

end mergeable

end Client

theorem Registry.Mergeable.shown {r r' : Registry} {limits : Limits} {id : StructureId}
    {selection : List PortSide} {limit : Option Nat} {side : Side} {key : MergeGroupId}
    {editor : Editor} (h : r.Mergeable id selection limit side) (hr' : r'.WellFormed limits)
    (hmerge : r.merge limits id (chosenPorts selection) side = .ok (key, r'))
    (hrows : editor.rows = r'.listing id) :
    ∀ spot ∈ selection, groupOf editor.rows spot = some key ∧
      groupPorts editor.rows key spot.side = chosenPorts selection := by
  intro spot hspot
  have hport : spot.port ∈ chosenPorts selection := mem_chosenPorts.2 ⟨spot, hspot, rfl⟩
  constructor
  · rw [hrows, groupOf_listing hr'.rowsAt, endpoint_merge hmerge,
      if_pos ⟨rfl, h.oneSide spot hspot, hport⟩]
  · have hkey := (find?_groups_merge hmerge key).trans (if_pos rfl)
    rw [(hr'.showsGroups hrows).ports hkey rfl, if_pos (h.oneSide spot hspot)]
    exact (isRun_chosenPorts_iff.2 h.run).sortNumbers_eq

namespace Client

theorem merges_run {s : Server} (h : s.Sound) {c : Client} {id : StructureId}
    (hmirrors : c.editor.Mirrors s.registry id)
    (hfree : ∀ ports side, s.failpointFor (.merge id ports side) = none)
    (hfree' : s.failpointFor (.rowsOf id) = none) :
    let (merged, left, last, exchanges) :=
      mergeSelected.run (Authority.recorded Server.answer) c (s, [])
    last.registry.ids.Distinct → Merges c s id merged left exchanges := by
  cases hcheck : checkSelection c.editor c.settings.maxGroupSize with
  | error e =>
    rw [run_unsent hcheck]
    -- Whatever can be merged passes the check.
    refine fun _ => merges_unsent rfl ?_
    rintro ⟨side, hmerge⟩
    have hok := (hmirrors.checkSelection_iff h.wellFormed).2 ⟨rfl, rfl, hmerge⟩
    rw [hcheck] at hok
    cases hok
  | ok answer =>
    obtain ⟨id', side, ports⟩ := answer
    obtain ⟨rfl, rfl, hmergeable⟩ := (hmirrors.checkSelection_iff h.wellFormed).1 hcheck
    have hsize : _ ↔ _ ≤ s.limits.groupSize := hmergeable.accepted_iff
    cases hmerge : s.registry.merge s.limits id' (chosenPorts c.editor.selection) side with
    | error e =>
      -- After the check only the size is left for the authority to refuse.
      obtain ⟨left, last, hrun, hleft⟩ := run_refused hcheck (hfree _ _) hmerge
      rw [hrun]
      rw [hmerge] at hsize
      exact fun _ => merges_refused hmergeable hleft (by simpa using hsize)
    | ok a =>
      obtain ⟨key, r⟩ := a
      obtain ⟨record, hrecord, -⟩ := hmirrors.ports
      have hknown : r.structures.find? id' = some record :=
        (Registry.frame_merge hmerge).structures ▸ hrecord
      obtain ⟨left, last, hrun, rfl, hleft⟩ :=
        run_merged hcheck (hfree _ _) hfree' ⟨_, hknown⟩ hmerge
      rw [hrun]
      intro hids
      have hsound := Registry.Sound.merge h hmerge hids
      have hascends := Registry.ascends_listing hsound.wellFormed.rowsAt id'
      have hrows : left.editor.rows = last.registry.listing id' :=
        (congrArg Editor.rows hleft).trans (rows_replaceRows hmirrors.structureId hascends)
      exact merges_accepted hmergeable (hsize.1 ⟨_, hmerge⟩) (congrArg Editor.mergeMode hleft)
        (congrArg Editor.selection hleft) (hmergeable.shown hsound.wellFormed hmerge hrows)

end Client

namespace Server

/-- A client that has the ports and rows of the authority asks for a merge exactly when the chosen
port sides can become one group, and the authority accepts it exactly when its own limit allows as
many. Then the editor shows them as one group and nothing is chosen any more; else the editor is as
before. No failpoint is in the way, and no identifier is drawn twice. -/
theorem merge_of_selection {s : Server} (h : s.Reachable) {c : Client} {id : StructureId}
    (hmirrors : c.editor.Mirrors s.registry id)
    (hfree : ∀ ports side, s.failpointFor (.merge id ports side) = none)
    (hfree' : s.failpointFor (.rowsOf id) = none)
    (hids : (Client.mergeSelected.run (Authority.recorded answer) c
      (s, [])).2.2.1.registry.ids.Distinct) :
    let out := Client.mergeSelected.run (Authority.recorded answer) c (s, [])
    c.Merges s id out.1 out.2.1 out.2.2.2 := by
  have hsound := h.sound ((backwardClosed_lossy _).run Client.mergeSelected hids)
  exact Client.merges_run hsound hmirrors hfree hfree' hids

theorem merge_of_selection_backwards :
    let s := (ofPlan {} smallPlan (.numbered 0 0)).serveAll [.call (.merge smallTray.id [2, 1] .a)]
    let c : Client := { Client.ofSettings {} (.numbered 1 0) with editor :=
      { selected := some ⟨smallTray, s.registry.portsAt smallTray⟩
        rows := s.registry.listing smallTray.id
        mergeMode := true
        selection := [⟨3, .b⟩, ⟨2, .b⟩, ⟨1, .b⟩] } }
    let out := Client.mergeSelected.run (Authority.recorded answer) c (s, [])
    c.editor.Mirrors s.registry smallTray.id ∧
      out.2.2.2.map (·.call) = [.merge smallTray.id [1, 2, 3] .b, .rowsOf smallTray.id] ∧
      c.Merges s smallTray.id out.1 out.2.1 out.2.2.2 := by
  intro s c out
  have hknown : s.registry.structures.find? smallTray.id = some smallTray := by decide +kernel
  have hmirrors : c.editor.Mirrors s.registry smallTray.id := ⟨rfl, ⟨smallTray, hknown, rfl⟩, rfl⟩
  have hnone : s.failpoints = [] := by decide +kernel
  have hfree : ∀ call, s.failpointFor call = none := fun call => by simp [failpointFor, hnone]
  refine ⟨hmirrors, by decide +kernel, ?_⟩
  exact merge_of_selection (s := s) (c := c) ⟨_, _, _, _, rfl⟩ hmirrors
    (fun _ _ => hfree _) (hfree _) (by decide +kernel)

end Server
end CrossConnect
