import CrossConnect.Proofs.Registry.Growing

/-!
The registry as a transition system: what every accepted write makes of it, said by looking up port
sides, rows and merge groups, and that nothing else is touched.
-/
namespace CrossConnect

theorem MergeGroup.eq_first?_iff {group : MergeGroup} {port : PortNumber}
    (h : PortRun.IsRun group.ports) (hport : port ∈ group.ports) :
    some port = group.span.first? ↔ ∀ q ∈ group.ports, port ≤ q := by
  have hlt := h.pairwise_lt
  have hfirst : group.span.first? = group.ports.head? := congrArg List.head? h.sortNumbers_eq
  rw [hfirst]
  generalize group.ports = ports at hlt hport
  cases ports with
  | nil => cases hport
  | cons first rest =>
    have hfirst := (List.pairwise_cons.1 hlt).1
    rw [List.head?_cons, Option.some.injEq]
    refine ⟨?_, fun hle => ?_⟩
    · rintro rfl q hq
      rcases List.mem_cons.1 hq with rfl | hq
      · exact UInt32.le_refl _
      · exact UInt32.le_of_lt (hfirst q hq)
    · rcases List.mem_cons.1 hport with rfl | hrest
      · rfl
      · exact absurd (hfirst port hrest) (UInt32.not_lt.2 (hle first List.mem_cons_self))

namespace Registry

/-- The port is the one of `spot` or is in a merge group with it. -/
def Shares (r : Registry) (id : StructureId) (spot : PortSide) (port : PortNumber) : Prop :=
  port = spot.port ∨ ∃ key group, r.groups.find? key = some group ∧ group.Covers id spot ∧
    port ∈ group.ports

/-- `fiber` is the one of the lowest of the ports that have a fiber, if any has. -/
def LowestFiber (r : Registry) (id : StructureId) (side : Side) (ports : List PortNumber) :
    Option Termination → Prop
  | none => ∀ port ∈ ports, (r.endpoint id ⟨port, side⟩).fiber = none
  | some fiber => ∃ port ∈ ports, (r.endpoint id ⟨port, side⟩).fiber = some fiber ∧
      ∀ lower ∈ ports, lower < port → (r.endpoint id ⟨lower, side⟩).fiber = none

def KeepsIds (r r' : Registry) : Prop :=
  ∀ ⦃id port row row'⦄, r.rows.find? (id, port) = some row →
    r'.rows.find? (id, port) = some row' → row'.id = row.id

/-- What a write amounts to that changes endpoints on one side of a structure, and the records of
some merge groups. -/
structure Rewrites (r r' : Registry) (id : StructureId) (side : Side) (touched : PortNumber → Prop)
    (change : PortNumber → Endpoint → Endpoint) (recorded : MergeGroupId → Prop) : Prop where
  frame : Frame r r'
  endpoint_touched : ∀ port, touched port →
    r'.endpoint id ⟨port, side⟩ = change port (r.endpoint id ⟨port, side⟩)
  endpoint_kept : ∀ other spot, ¬(other = id ∧ spot.side = side ∧ touched spot.port) →
    r'.endpoint other spot = r.endpoint other spot
  row_iff : ∀ other port, (r'.rows.find? (other, port)).isSome = true ↔
    ∃ side, (r'.endpoint other ⟨port, side⟩).isVacant = false
  row_id : KeepsIds r r'
  group_kept : ∀ key, ¬recorded key → r'.groups.find? key = r.groups.find? key

end Registry

/-- What an accepted call makes of the registry. -/
def Call.Law (r r' : Registry) : Call → Prop
  | .portsOf _ | .rowsOf _ | .fibersOf _ => r' = r
  | .place p => ∃ fiber, r.terminate p.fiber = .ok fiber ∧
      r.Rewrites r' p.structureId p.spot.side (r.Shares p.structureId p.spot)
        (fun _ e => { e with fiber := some fiber }) fun _ => False
  | .clear id spot =>
      r.Rewrites r' id spot.side (r.Shares id spot) (fun _ e => { e with fiber := none })
        (fun key => ∃ group, r.groups.find? key = some group ∧ group.Covers id spot) ∧
      ∀ key group, r.groups.find? key = some group → group.Covers id spot →
        r'.groups.find? key = some { group with fibers := [] }
  | .merge id ports side => ∃ key fiber, r.groups.find? key = none ∧
      r.LowestFiber id side ports fiber ∧
      let group : MergeGroup :=
        { id := key, structureId := id, side, ports := sortNumbers ports, fibers := [] }
      r.Rewrites r' id side (· ∈ ports) (fun _ _ => ⟨fiber, some key, some group.span⟩) (· = key) ∧
        r'.groups.find? key = some group
  | .unmerge key _ => ∃ group, r.groups.find? key = some group ∧
      r.Rewrites r' group.structureId group.side (· ∈ group.ports)
        (fun port e => { fiber := if ∀ q ∈ group.ports, port ≤ q then e.fiber else none })
        (· = key) ∧
      r'.groups.find? key = none
  | .upload key side fibers => ∃ group first shown, r.groups.find? key = some group ∧
      group.side = side ∧ fibers.mapM r.terminate = .ok (first :: shown) ∧
      r.Rewrites r' group.structureId side (· ∈ group.ports)
        (fun _ e => { e with fiber := some first }) (· = key) ∧
      r'.groups.find? key = some { group with fibers := first :: shown }

namespace Registry

variable {r r' : Registry} {id other : StructureId} {side : Side} {spot : PortSide}
  {port : PortNumber} {ports : List PortNumber} {row : Splice} {group : MergeGroup}
  {key : MergeGroupId} {limits : Limits}

theorem WellFormed.row_iff (h : r.WellFormed limits) (id : StructureId) (port : PortNumber) :
    (r.rows.find? (id, port)).isSome = true ↔
      ∃ side, (r.endpoint id ⟨port, side⟩).isVacant = false := by
  cases hrow : r.rows.find? (id, port) with
  | none =>
    have hvacant : ∀ side, r.endpoint id ⟨port, side⟩ = {} := fun side => endpoint_of_no_row hrow
    simp [hvacant, Endpoint.isVacant]
  | some row =>
    have hfilled := h.row_filled hrow
    have hsides : ¬∀ side, (row.endpoint side).isVacant = true := fun hall => by
      rw [Splice.isEmpty_iff.2 hall] at hfilled
      cases hfilled
    obtain ⟨side, hside⟩ := not_forall.1 hsides
    have hendpoint : r.endpoint id ⟨port, side⟩ = row.endpoint side := endpoint_of_row hrow
    refine iff_of_true rfl ⟨side, ?_⟩
    rw [hendpoint]
    simpa using hside

theorem WellFormed.shares_of_covers (h : r.WellFormed limits)
    (hkey : r.groups.find? key = some group) (hcovers : group.Covers id spot) :
    r.Shares id spot port ↔ port ∈ group.ports := by
  constructor
  · rintro (rfl | ⟨key', group', hkey', hcovers', hport⟩)
    · exact hcovers.2.2
    · rwa [(h.key_unique hkey hkey' hcovers hcovers').2] at hport
  · exact fun hport => .inr ⟨key, group, hkey, hcovers, hport⟩

theorem WellFormed.mem_fanOut_iff (h : r.WellFormed limits) :
    port ∈ r.fanOut id spot ↔ r.Shares id spot port := by
  simp only [fanOut]
  cases hat : r.groupAt id spot with
  | none =>
    have hno : ¬∃ key group, r.groups.find? key = some group ∧ group.Covers id spot ∧
        port ∈ group.ports := by
      rintro ⟨key, group, hkey, hcovers, -⟩
      exact groupAt_eq_none hat hkey hcovers
    simp [Shares, hno]
  | some group =>
    obtain ⟨key, hkey, hcovers⟩ := groupAt_eq_some hat
    exact (h.shares_of_covers hkey hcovers).symm

theorem lowestFiber_firstFiber (r : Registry) (id : StructureId) (side : Side)
    (ports : List PortNumber) :
    r.LowestFiber id side ports (r.firstFiber id side (sortNumbers ports)) := by
  rw [firstFiber_eq]
  have hmem : ∀ {port}, port ∈ sortNumbers ports ↔ port ∈ ports := mem_sortBy _
  cases hfirst : (sortNumbers ports).findSome? fun port => (r.endpoint id ⟨port, side⟩).fiber with
  | none => exact fun port hport => List.findSome?_eq_none_iff.1 hfirst port (hmem.2 hport)
  | some fiber =>
    obtain ⟨before, port, after, hsplit, hport, hnone⟩ := List.findSome?_eq_some_iff.1 hfirst
    have hsorted := pairwise_sortNumbers ports
    rw [hsplit] at hsorted hmem
    have hafter := (List.pairwise_cons.1 (List.pairwise_append.1 hsorted).2.1).1
    refine ⟨port, hmem.1 (by simp), hport, fun lower hlower hlt => ?_⟩
    rcases List.mem_append.1 (hmem.2 hlower) with hbefore | hrest
    · exact hnone lower hbefore
    · rcases List.mem_cons.1 hrest with rfl | hrest
      · exact absurd hlt (UInt32.lt_irrefl _)
      · exact absurd hlt (UInt32.not_lt.2 (hafter lower hrest))

/-! ### Identities of rows -/

theorem keepsIds_writeEndpoints (r : Registry) (id : StructureId) (side : Side)
    (f : PortNumber → Endpoint → Endpoint) (hnodup : ports.Nodup) :
    KeepsIds r (r.writeEndpoints id side f ports) := by
  intro other port row row' hrow hrow'
  by_cases hmem : other = id ∧ port ∈ ports
  · obtain ⟨rfl, hport⟩ := hmem
    obtain ⟨uuid, huuid⟩ := find?_writeEndpoints_of_mem r other side f hnodup hport
    rw [huuid, hrow, Option.getD_some] at hrow'
    obtain rfl := Option.some.inj hrow'
    exact Splice.id_mapEndpoint ..
  · rw [find?_writeEndpoints_of_ne r side f hmem, hrow] at hrow'
    obtain rfl := Option.some.inj hrow'
    rfl

theorem keepsIds_vacated (hrows : r'.rows = r.vacated id side ports) : KeepsIds r r' := by
  intro other port row row' hrow hrow'
  rw [hrows, find?_vacated, hrow, Option.map_some] at hrow'
  obtain rfl := Option.some.inj hrow'
  split
  · exact Splice.id_mapEndpoint ..
  · rfl

theorem KeepsIds.prune (h : KeepsIds r r') (id : StructureId) : KeepsIds r (r'.prune id) := by
  intro other port row row' hrow hrow'
  rw [find?_prune, Option.filter_eq_some_iff] at hrow'
  exact h hrow hrow'.1

/-! ### The five writes -/

namespace WellFormed

theorem rewrites_of_fiberChange {fiber : Option Termination} {touched : PortNumber → Prop}
    {recorded : MergeGroupId → Prop} (h' : r'.WellFormed limits)
    (hchange : FiberChange r r' id side ports fiber)
    (htouched : ∀ port, port ∈ ports ↔ touched port) (hids : KeepsIds r r')
    (hgroups : ∀ key, ¬recorded key → r'.groups.find? key = r.groups.find? key) :
    Rewrites r r' id side touched (fun _ e => { e with fiber }) recorded where
  frame := hchange.frame
  endpoint_touched port hport := by
    rw [hchange.endpoint, if_pos ⟨rfl, rfl, (htouched port).2 hport⟩]
  endpoint_kept other spot hapart := by
    rw [hchange.endpoint, if_neg]
    rwa [htouched]
  row_iff := h'.row_iff
  row_id := hids
  group_kept := hgroups

variable (h : r.WellFormed limits)

include h

theorem law_place {p : Placement} (hplace : r.place p = .ok (row, r')) :
    (Call.place p).Law r r' := by
  have h' := h.place hplace
  obtain ⟨-, -, fiber, hfiber, rfl⟩ := h.place_eq_ok hplace
  have hnodup : (r.fanOut p.structureId p.spot).Nodup := h.nodup_fanOut
  have hwritten := fiberChange_writeEndpoints r p.structureId p.spot.side (some fiber) hnodup
  refine ⟨fiber, hfiber, h'.rewrites_of_fiberChange hwritten (fun port => h.mem_fanOut_iff)
    (keepsIds_writeEndpoints r _ _ _ hnodup) fun key _ => ?_⟩
  rw [groups_writeEndpoints]

theorem find?_withoutUpload (id : StructureId) (spot : PortSide) (key : MergeGroupId) :
    (r.withoutUpload id spot).find? key = (r.groups.find? key).map fun group =>
      if group.Covers id spot then { group with fibers := [] } else group := by
  simp only [withoutUpload]
  cases hat : r.groupAt id spot with
  | none =>
    cases hkey : r.groups.find? key with
    | none => rfl
    | some group => simp [groupAt_eq_none hat hkey]
  | some found =>
    obtain ⟨key', hkey', hcovers'⟩ := groupAt_eq_some hat
    dsimp only
    rw [h.group_id hkey', Table.find?_modify]
    cases hkey : r.groups.find? key with
    | none => split <;> rfl
    | some group =>
      by_cases hcovers : group.Covers id spot
      · simp [h.key_unique hkey' hkey hcovers' hcovers, hcovers']
      · have hne : key ≠ key' := by
          rintro rfl
          obtain rfl := Option.some.inj (hkey.symm.trans hkey')
          exact hcovers hcovers'
        simp [hne, hcovers]

theorem law_clear {outcome : ClearOutcome} (hclear : r.clear id spot = .ok (outcome, r')) :
    (Call.clear id spot).Law r r' := by
  have h' := h.clear hclear
  have hchange := h.clear_fiberChange hclear
  obtain ⟨-, rfl⟩ := clear_eq_ok hclear
  have hgroups := h.find?_withoutUpload id spot
  refine ⟨h'.rewrites_of_fiberChange hchange (fun port => h.mem_fanOut_iff)
    ((keepsIds_vacated rfl).prune id) fun key hkey => (hgroups key).trans ?_,
    fun key group hkey hcovers => (hgroups key).trans ?_⟩
  · cases hfind : r.groups.find? key with
    | none => rfl
    | some group =>
      have hcovers : ¬group.Covers id spot := fun hcovers => hkey ⟨group, hfind, hcovers⟩
      simp [hcovers]
  · simp [hkey, hcovers]

theorem rewrites_merge (hmerge : r.merge limits id ports side = .ok (key, r'))
    (hfresh : r.groups.find? ⟨r.ids.next.1⟩ = none) :
    Rewrites r r' id side (· ∈ ports)
      (fun _ _ => ⟨r.firstFiber id side (sortNumbers ports), some key,
        some (GroupSpan.ofPorts (sortNumbers ports))⟩) (· = key) := by
  have h' := h.merge hmerge hfresh
  have hendpoint := endpoint_merge hmerge
  have hgroups := find?_groups_merge hmerge
  have hdrawn : Frame r { r with ids := r.ids.next.2 } := ⟨rfl, rfl, rfl, rfl, Nat.le_succ _⟩
  have hframe := hdrawn.trans (frame_merge hmerge)
  obtain ⟨sorted, hsorted, -, rfl, rfl⟩ := merge_eq_ok hmerge
  obtain ⟨rfl, -, -, hrun⟩ := PortRun.validate_eq_ok hsorted
  exact {
    frame := hframe
    endpoint_touched := fun port hport => by rw [hendpoint, if_pos ⟨rfl, rfl, hport⟩]
    endpoint_kept := fun other spot hapart => by rw [hendpoint, if_neg hapart]
    row_iff := h'.row_iff
    row_id := fun other port row row' hrow => keepsIds_writeEndpoints _ _ _ _ hrun.nodup hrow
    group_kept := fun k hk => by rw [hgroups, if_neg hk] }

theorem law_merge (hmerge : r.merge limits id ports side = .ok (key, r'))
    (hfresh : r.groups.find? ⟨r.ids.next.1⟩ = none) : (Call.merge id ports side).Law r r' := by
  obtain ⟨-, -, -, hkey, -⟩ := merge_eq_ok hmerge
  refine ⟨key, _, hkey ▸ hfresh, lowestFiber_firstFiber r id side ports,
    h.rewrites_merge hmerge hfresh, ?_⟩
  rw [find?_groups_merge hmerge, if_pos rfl]

theorem law_unmerge (hunmerge : r.unmerge key ports = .ok r') :
    (Call.unmerge key ports).Law r r' := by
  have h' := h.unmerge hunmerge
  have hframe := frame_unmerge hunmerge
  obtain ⟨group, hkey, -, heq⟩ := unmerge_eq_ok hunmerge
  have hendpoint := h.endpoint_unmerge hkey hunmerge
  have hrun := h.group_run hkey
  have hgroups : ∀ k, r'.groups.find? k = if k = key then none else r.groups.find? k := fun k => by
    rw [heq]
    exact Table.find?_erase ..
  have hids :
      KeepsIds r { r.writeEndpoints group.structureId group.side group.keepFirst group.ports with
      groups := r.groups.erase key } :=
    keepsIds_writeEndpoints r group.structureId group.side group.keepFirst hrun.nodup
  refine ⟨group, hkey, ?_, by rw [hgroups, if_pos rfl]⟩
  exact {
    frame := hframe
    endpoint_touched := fun port hport => by
      have hcovers : group.Covers group.structureId ⟨port, group.side⟩ := ⟨rfl, rfl, hport⟩
      rw [hendpoint, if_pos hcovers, MergeGroup.keepFirst]
      simp only [MergeGroup.eq_first?_iff hrun hport]
    endpoint_kept := fun other spot hapart => by
      rw [hendpoint, if_neg]
      exact fun hcovers => hapart ⟨hcovers.1.symm, hcovers.2.1.symm, hcovers.2.2⟩
    row_iff := h'.row_iff
    row_id := heq ▸ hids.prune group.structureId
    group_kept := fun k hk => by rw [hgroups, if_neg hk] }

theorem law_upload {fibers : List FiberRef} (hupload : r.upload limits key side fibers = .ok r') :
    (Call.upload key side fibers).Law r r' := by
  have h' := h.upload hupload
  obtain ⟨group, first, shown, hkey, hside, hshown, hchange, rfl⟩ := h.upload_eq_ok hupload
  refine ⟨group, first, shown, hkey, hside, hshown, ?_, ?_⟩
  · refine h'.rewrites_of_fiberChange hchange (fun port => Iff.rfl)
      (keepsIds_writeEndpoints r _ _ _ (h.group_run hkey).nodup) fun k hk => ?_
    exact (Table.find?_modify ..).trans (if_neg hk)
  · exact (Table.find?_modify ..).trans (by rw [if_pos rfl, hkey]; rfl)

end WellFormed

theorem Sound.law (h : r.Sound limits) {call : Call} {a : call.Answer}
    (hperform : r.perform limits call = .ok (a, r')) (hids : r'.ids.Distinct) : call.Law r r' := by
  cases call with
  | portsOf _ | rowsOf _ | fibersOf _ => exact perform_read rfl hperform
  | place p => exact h.wellFormed.law_place hperform
  | clear id spot => exact h.wellFormed.law_clear hperform
  | merge id ports side =>
    obtain ⟨⟨key, _⟩, hmerge, heq⟩ := map_eq_ok.1 hperform
    obtain rfl := (Prod.mk.inj heq).2
    exact h.wellFormed.law_merge hmerge (h.drawn.next_fresh ((frame_merge hmerge).distinct hids))
  | unmerge key ports =>
    obtain ⟨_, hunmerge, heq⟩ := map_eq_ok.1 hperform
    obtain rfl := (Prod.mk.inj heq).2
    exact h.wellFormed.law_unmerge hunmerge
  | upload key side fibers =>
    obtain ⟨_, hupload, heq⟩ := map_eq_ok.1 hperform
    obtain rfl := (Prod.mk.inj heq).2
    exact h.wellFormed.law_upload hupload

end Registry

namespace Server

/-- Whatever was asked of an authority before, an accepted call makes of its registry what the law
of the call says, as long as no identifier is drawn twice. -/
theorem law_of_accepted {s : Server} (h : s.Reachable) {call : Call} {a : call.Answer}
    (hok : (s.answer call).1 = .ok a) (hids : (s.answer call).2.registry.ids.Distinct) :
    call.Law s.registry (s.answer call).2.registry := by
  have hsound := h.sound ((frame_answer s call).distinct hids)
  exact Registry.Sound.law hsound (perform_of_ok hok) hids

theorem law_after_merge :
    let requests : List Request :=
      [.call (.place ⟨smallTray.id, ⟨2, .a⟩, (smallFiber 1).ref⟩),
        .call (.merge smallTray.id [3, 1, 2] .a),
        .call (.place ⟨smallTray.id, ⟨2, .b⟩, (smallFiber 2).ref⟩)]
    let server := (ofPlan {} smallPlan (.numbered 0 0)).serveAll requests
    let call := Call.clear smallTray.id ⟨1, .a⟩
    (server.answer call).1 = .ok ⟨false⟩ ∧
      call.Law server.registry (server.answer call).2.registry :=
  ⟨by decide +kernel,
    law_of_accepted ⟨_, _, _, _, rfl⟩ (a := ⟨false⟩) (by decide +kernel) (by decide +kernel)⟩

end Server

end CrossConnect
