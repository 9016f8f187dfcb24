import CrossConnect.Proofs.Registry.Listing
import CrossConnect.Proofs.Registry.Placing

/-!
What stays while fibers are placed and ports are merged and nothing is taken away: every merge group
with its ports, and that a port side has some fiber.
-/
namespace CrossConnect.Registry

variable {r r' r₀ : Registry} {id other home : StructureId} {spot spot' : PortSide} {side : Side}
  {ports : List PortNumber} {key : MergeGroupId} {limits : Limits}
  {p q : Placement} {row : Splice}

/-! ### Fibers -/

def Filled (r : Registry) (id : StructureId) (spot : PortSide) : Prop :=
  (r.endpoint id spot).fiber.isSome = true

theorem Filled.isOccupied (h : r.Filled id spot) (hrows : r.RowsAt) :
    Occupancy.isOccupied (r.listing id) spot = true := by
  simp only [Filled, endpoint] at h
  simp only [Occupancy.isOccupied, Occupancy.occupant]
  rw [row_listing hrows]
  cases hrow : r.rows.find? (id, spot.port) with
  | none =>
    rw [hrow] at h
    cases h
  | some row =>
    rw [hrow] at h
    obtain ⟨fiber, hfiber⟩ := Option.isSome_iff_exists.1 h
    have hfiber : row.fiber spot.side = some fiber := hfiber
    simp only [hfiber]
    rfl

theorem Filled.place (h : r.Filled id spot) (hr : r.WellFormed limits)
    (hplace : r.place p = .ok (row, r')) : r'.Filled id spot := by
  obtain ⟨shown, -, hchange⟩ := hr.place_fiberChange hplace
  simp only [Filled]
  rw [hchange.endpoint]
  split
  · rfl
  · exact h

theorem Carries.filled {fiber : FiberId} (h : r.Carries id spot fiber) : r.Filled id spot := by
  obtain ⟨shown, hshown, -⟩ := Option.map_eq_some_iff.1 h
  simp only [Filled]
  rw [hshown]
  rfl

theorem WellFormed.carries_reached (h : r.WellFormed limits) (hplace : r.place p = .ok (row, r'))
    (hreach : r.Reaches p id spot) : r'.Carries id spot p.fiber.fiberId := by
  obtain ⟨rfl, hside, hport⟩ := hreach
  exact h.carries_place hplace hside hport

/-! ### Merging -/

theorem endpoint_merge (hmerge : r.merge limits id ports side = .ok (key, r')) (other : StructureId)
    (spot : PortSide) :
    r'.endpoint other spot =
      if other = id ∧ spot.side = side ∧ spot.port ∈ ports then
        ⟨r.firstFiber id side (sortNumbers ports), some key,
          some (GroupSpan.ofPorts (sortNumbers ports))⟩
      else r.endpoint other spot := by
  obtain ⟨sorted, hsorted, -, -, rfl⟩ := merge_eq_ok hmerge
  obtain ⟨rfl, -, -, hrun⟩ := PortRun.validate_eq_ok hsorted
  rw [endpoint_writeEndpoints _ _ _ _ hrun.nodup]
  simp only [sortNumbers, mem_sortBy]
  rfl

theorem find?_groups_merge (hmerge : r.merge limits id ports side = .ok (key, r'))
    (k : MergeGroupId) :
    r'.groups.find? k =
      if k = key then
        some { id := key, structureId := id, side, ports := sortNumbers ports, fibers := [] }
      else r.groups.find? k := by
  obtain ⟨sorted, hsorted, -, -, rfl⟩ := merge_eq_ok hmerge
  obtain ⟨rfl, -, -, -⟩ := PortRun.validate_eq_ok hsorted
  rw [groups_writeEndpoints]
  exact Table.find?_insert ..

theorem firstFiber_eq (r : Registry) (id : StructureId) (side : Side) (ports : List PortNumber) :
    r.firstFiber id side ports = ports.findSome? fun port =>
      (r.endpoint id ⟨port, side⟩).fiber := by
  simp only [firstFiber, endpoint]
  refine congrArg (List.findSome? · ports) (funext fun port => ?_)
  cases r.rows.find? (id, port) <;> rfl

theorem Filled.merge (h : r.Filled other spot)
    (hmerge : r.merge limits id ports side = .ok (key, r')) : r'.Filled other spot := by
  simp only [Filled]
  rw [endpoint_merge hmerge]
  split
  next hmerged =>
    obtain ⟨rfl, rfl, hport⟩ := hmerged
    rw [firstFiber_eq]
    exact List.findSome?_isSome_iff.2 ⟨spot.port, (mem_sortBy _).2 hport, h⟩
  next => exact h

/-- The port is the lowest one of the ports that have a fiber, and this is its fiber. -/
def Leads (r : Registry) (id : StructureId) (side : Side) (ports : List PortNumber)
    (port : PortNumber) (fiber : FiberId) : Prop :=
  port ∈ ports ∧ r.Carries id ⟨port, side⟩ fiber ∧
    ∀ lower ∈ ports, lower < port → ¬r.Filled id ⟨lower, side⟩

theorem exists_leads {shown : Termination}
    (h : r.firstFiber id side (sortNumbers ports) = some shown) :
    ∃ port, r.Leads id side ports port shown.fiberId := by
  rw [firstFiber_eq] at h
  obtain ⟨before, port, after, hsplit, hshown, hnone⟩ := List.findSome?_eq_some_iff.1 h
  have hmem : ∀ {other}, other ∈ ports ↔ other ∈ before ++ port :: after := fun {other} => by
    rw [← hsplit, sortNumbers, mem_sortBy]
  have hsorted := pairwise_sortNumbers ports
  rw [hsplit] at hsorted
  have hafter := (List.pairwise_cons.1 (List.pairwise_append.1 hsorted).2.1).1
  refine ⟨port, hmem.2 (by simp), congrArg (Option.map _) hshown,
    fun lower hlower hlt hfilled => ?_⟩
  rcases List.mem_append.1 (hmem.1 hlower) with hbefore | hrest
  · rw [Filled, hnone lower hbefore] at hfilled
    cases hfilled
  · rcases List.mem_cons.1 hrest with rfl | hrest
    · exact UInt32.lt_irrefl _ hlt
    · exact UInt32.not_lt.2 (hafter lower hrest) hlt

theorem Carries.merge {fiber : FiberId} (h : r.Carries other spot fiber)
    (hmerge : r.merge limits id ports side = .ok (key, r')) :
    r'.Carries other spot fiber ∨ (other = id ∧ spot.side = side ∧ spot.port ∈ ports) ∧
      ∃ port rival, r.Leads id side ports port rival ∧ rival ≠ fiber := by
  have hfilled := h.filled.merge hmerge
  simp only [Carries, Filled] at hfilled ⊢
  rw [endpoint_merge hmerge] at hfilled ⊢
  split at hfilled
  next hmerged =>
    rw [if_pos hmerged]
    obtain ⟨shown, hshown⟩ := Option.isSome_iff_exists.1 hfilled
    by_cases hsame : shown.fiberId = fiber
    · refine .inl ?_
      rw [hshown, ← hsame]
      rfl
    · obtain ⟨port, hleads⟩ := exists_leads hshown
      exact .inr ⟨hmerged, port, shown.fiberId, hleads, hsame⟩
  next hapart =>
    rw [if_neg hapart]
    exact .inl h

/-! ### Groups -/

theorem WellFormed.reaches_of_group (h : r.WellFormed limits)
    (hkey : (r.endpoint p.structureId p.spot).group = some key)
    (hkey' : (r.endpoint p.structureId spot).group = some key) :
    r.Reaches p p.structureId spot := by
  obtain ⟨group, hgroup, hcovers⟩ := h.group_iff.1 hkey
  obtain ⟨group', hgroup', hcovers'⟩ := h.group_iff.1 hkey'
  obtain rfl := Option.some.inj (hgroup.symm.trans hgroup')
  refine ⟨rfl, hcovers'.2.1.symm.trans hcovers.2.1, ?_⟩
  rw [h.group_endpoint] at hkey
  obtain ⟨found, hfound, -⟩ := Option.map_eq_some_iff.1 hkey
  obtain ⟨key₂, hkey₂, hcovers₂⟩ := groupAt_eq_some hfound
  obtain ⟨-, rfl⟩ := h.key_unique hgroup hkey₂ hcovers hcovers₂
  simp only [fanOut, hfound]
  exact hcovers'.2.2

theorem reaches_self (r : Registry) (p : Placement) : r.Reaches p p.structureId p.spot :=
  ⟨rfl, rfl, mem_fanOut_self ..⟩

/-- Every group is still there, and those that came since are of merges on one structure, `home`. -/
structure Grown (r₀ r : Registry) (home : StructureId) (merged : Side → List PortNumber → Prop) :
    Prop where
  forth : ∀ {key group}, r₀.groups.find? key = some group →
    ∃ group', r.groups.find? key = some group' ∧ SameShape group group'
  back : ∀ {key group'}, r.groups.find? key = some group' →
    (∃ group, r₀.groups.find? key = some group ∧ SameShape group group') ∨
      group'.structureId = home ∧ ∃ ports, merged group'.side ports ∧
        group'.ports = sortNumbers ports

namespace Grown

variable {merged merged' : Side → List PortNumber → Prop}

theorem refl (r : Registry) (home : StructureId) : r.Grown r home merged :=
  ⟨fun hkey => ⟨_, hkey, rfl, rfl, rfl, rfl⟩, fun hkey => .inl ⟨_, hkey, rfl, rfl, rfl, rfl⟩⟩

theorem mono (h : r₀.Grown r home merged)
    (hmerged : ∀ side ports, merged side ports → merged' side ports) : r₀.Grown r home merged' := by
  refine ⟨h.forth, fun hkey => (h.back hkey).imp_right ?_⟩
  rintro ⟨hid, ports, hports, heq⟩
  exact ⟨hid, ports, hmerged _ _ hports, heq⟩

theorem sameGroups (h : r₀.Grown r home merged) (hgroups : SameGroups r r') :
    r₀.Grown r' home merged := by
  refine ⟨fun hkey => ?_, fun hkey => ?_⟩
  · obtain ⟨group, hgroup, hshape⟩ := h.forth hkey
    obtain ⟨group', hgroup', hshape'⟩ := hgroups.forth hgroup
    exact ⟨group', hgroup', hshape'.id.trans hshape.id,
      hshape'.structureId.trans hshape.structureId, hshape'.side.trans hshape.side,
      hshape'.ports.trans hshape.ports⟩
  · obtain ⟨group, hgroup, hshape'⟩ := hgroups.back hkey
    rcases h.back hgroup with ⟨first, hfirst, hshape⟩ | ⟨hid, ports, hmerged, hports⟩
    · exact .inl ⟨first, hfirst, hshape'.id.trans hshape.id,
        hshape'.structureId.trans hshape.structureId, hshape'.side.trans hshape.side,
        hshape'.ports.trans hshape.ports⟩
    · exact .inr ⟨hshape'.structureId.trans hid, ports, hshape'.side ▸ hmerged,
        hshape'.ports.trans hports⟩

theorem merge (h : r₀.Grown r home merged) (hmerge : r.merge limits home ports side = .ok (key, r'))
    (hfresh : r.groups.find? key = none)
    (hmerged : ∀ side ports, merged side ports → merged' side ports) (hnew : merged' side ports) :
    r₀.Grown r' home merged' := by
  refine ⟨fun {k group} hk => ?_, fun {k group'} hk => ?_⟩
  · obtain ⟨group', hgroup', hshape⟩ := h.forth hk
    refine ⟨group', ?_, hshape⟩
    rw [find?_groups_merge hmerge, if_neg]
    · exact hgroup'
    · rintro rfl
      rw [hfresh] at hgroup'
      cases hgroup'
  · rw [find?_groups_merge hmerge] at hk
    split at hk
    next =>
      obtain rfl := Option.some.inj hk
      exact .inr ⟨rfl, ports, hnew, rfl⟩
    next =>
      refine (h.back hk).imp_right ?_
      rintro ⟨hid, ports', hmerged', hports⟩
      exact ⟨hid, ports', hmerged _ _ hmerged', hports⟩

variable {limits₀ : Limits} (h : r₀.Grown r home merged) (hr₀ : r₀.WellFormed limits₀)
  (hr : r.WellFormed limits)

include h hr₀ hr

theorem group_old (hkey : (r₀.endpoint id spot).group = some key) :
    (r.endpoint id spot).group = some key := by
  obtain ⟨group, hgroup, hcovers⟩ := hr₀.group_iff.1 hkey
  obtain ⟨group', hgroup', hshape⟩ := h.forth hgroup
  exact hr.group_iff.2 ⟨group', hgroup', hshape.covers_iff.2 hcovers⟩

theorem reaches (hreach : r₀.Reaches p id spot) : r.Reaches p id spot := by
  obtain ⟨rfl, hside, hport⟩ := hreach
  rcases hr₀.eq_or_group_of_mem_fanOut hside hport with rfl | ⟨key, hkey, hkey'⟩
  · exact reaches_self r p
  · exact hr.reaches_of_group (h.group_old hr₀ hr hkey) (h.group_old hr₀ hr hkey')

theorem group_cases (hkey : (r.endpoint id spot).group = some key) :
    (∀ other, (r.endpoint id other).group = some key → (r₀.endpoint id other).group = some key) ∨
      id = home ∧ ∃ ports, merged spot.side ports ∧
        ∀ other, (r.endpoint id other).group = some key →
          other.side = spot.side ∧ other.port ∈ ports := by
  obtain ⟨group, hgroup, hcovers⟩ := hr.group_iff.1 hkey
  have hall : ∀ other, (r.endpoint id other).group = some key → group.Covers id other :=
    fun other hother => by
      obtain ⟨group', hgroup', hcovers'⟩ := hr.group_iff.1 hother
      obtain rfl := Option.some.inj (hgroup.symm.trans hgroup')
      exact hcovers'
  rcases h.back hgroup with ⟨first, hfirst, hshape⟩ | ⟨hid, ports, hmerged, hports⟩
  · exact .inl fun other hother =>
      hr₀.group_iff.2 ⟨first, hfirst, hshape.covers_iff.1 (hall other hother)⟩
  · refine .inr ⟨hcovers.1.symm.trans hid, ports, hcovers.2.1 ▸ hmerged, fun other hother => ?_⟩
    obtain ⟨-, hside, hport⟩ := hall other hother
    rw [hports, sortNumbers, mem_sortBy] at hport
    exact ⟨hside.symm.trans hcovers.2.1, hport⟩

theorem group_elsewhere (hother : id ≠ home) (spot : PortSide) :
    (r.endpoint id spot).group = (r₀.endpoint id spot).group := by
  cases hkey : (r.endpoint id spot).group with
  | some key =>
    rcases h.group_cases hr₀ hr hkey with hold | ⟨hid, -⟩
    · exact (hold spot hkey).symm
    · exact absurd hid hother
  | none =>
    cases hkey₀ : (r₀.endpoint id spot).group with
    | none => rfl
    | some key => exact hkey.symm.trans (h.group_old hr₀ hr hkey₀)

end Grown

end CrossConnect.Registry
