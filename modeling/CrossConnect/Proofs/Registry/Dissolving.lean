import CrossConnect.Proofs.Registry.Identities

/-!
Ports merged and their group dissolved again. Nothing is left of the group, and the other side of
the ports is not touched; but the lowest port ends up with the fiber of the lowest one that had one,
and the others with none, so what was above the lowest port is lost.
-/
namespace CrossConnect.Registry

variable {r r₁ r' : Registry} {id : StructureId} {side : Side} {ports again : List PortNumber}
  {key : MergeGroupId} {group : MergeGroup} {limits : Limits}

theorem LowestFiber.keeps_iff {fiber : Option Termination}
    (h : r.LowestFiber id side ports fiber) :
    (∀ port ∈ ports, (if ∀ q ∈ ports, port ≤ q then fiber else none) =
        (r.endpoint id ⟨port, side⟩).fiber) ↔
      ∀ port ∈ ports, (∃ lower ∈ ports, lower < port) →
        (r.endpoint id ⟨port, side⟩).fiber = none := by
  have hnot : ∀ {port}, (∃ lower ∈ ports, lower < port) → ¬∀ q ∈ ports, port ≤ q :=
    fun ⟨lower, hlower, hlt⟩ hall => UInt32.not_lt.2 (hall lower hlower) hlt
  constructor
  · intro hkept port hport hlower
    rw [← hkept port hport, if_neg (hnot hlower)]
  · intro hnone port hport
    split
    next hlowest =>
      cases fiber with
      | none => exact (h port hport).symm
      | some fiber =>
        -- The port that the fiber was taken from has none below it, so it is this one.
        obtain ⟨leader, hleader, hfiber, -⟩ := h
        have hnotAbove : ¬∃ lower ∈ ports, lower < leader := fun habove => by
          rw [hnone leader hleader habove] at hfiber
          cases hfiber
        obtain rfl : port = leader := UInt32.le_antisymm (hlowest leader hleader)
          (UInt32.not_lt.1 fun hlt => hnotAbove ⟨port, hport, hlt⟩)
        exact hfiber.symm
    next hlowest =>
      simp only [not_forall, UInt32.not_le] at hlowest
      obtain ⟨lower, hlower, hlt⟩ := hlowest
      exact (hnone port hport ⟨lower, hlower, hlt⟩).symm

namespace WellFormed

variable (h : r.WellFormed limits)

include h

theorem endpoint_of_merge (hmerge : r.merge limits id ports side = .ok (key, r₁))
    {port : PortNumber} (hport : port ∈ ports) :
    r.endpoint id ⟨port, side⟩ = { fiber := (r.endpoint id ⟨port, side⟩).fiber } := by
  obtain ⟨sorted, hsorted, hungrouped, -, -⟩ := merge_eq_ok hmerge
  obtain ⟨rfl, -, -, -⟩ := PortRun.validate_eq_ok hsorted
  have hnone : (r.endpoint id ⟨port, side⟩).group = none := by
    rw [h.group_endpoint, (requireUngrouped_eq_ok hungrouped ((mem_sortBy _).2 hport)).2]
    rfl
  have hspan := h.span_of_ungrouped hnone
  generalize r.endpoint id ⟨port, side⟩ = e at hnone hspan
  obtain ⟨fiber, group, span⟩ := e
  obtain rfl : group = none := hnone
  obtain rfl : span = none := hspan
  rfl

theorem rewrites_unmerge_merge (hmerge : r.merge limits id ports side = .ok (key, r₁))
    (hfresh : r.groups.find? key = none) (hperm : again.Perm ports) :
    ∃ r', r₁.unmerge key again = .ok r' ∧ r.Rewrites r' id side (· ∈ ports)
      (fun port _ => { fiber := if ∀ q ∈ ports, port ≤ q
        then r.firstFiber id side (sortNumbers ports) else none }) fun _ => False := by
  obtain ⟨-, -, -, hdrawn, -⟩ := merge_eq_ok hmerge
  have hmerged := h.rewrites_merge hmerge (hdrawn ▸ hfresh)
  have h₁ := h.merge hmerge (hdrawn ▸ hfresh)
  have hnew := find?_groups_merge hmerge key
  rw [if_pos rfl] at hnew
  obtain ⟨r', hunmerge⟩ := exists_unmerge hnew (PortRun.sortNumbers_of_perm hperm)
  obtain ⟨group, hgroup, hdissolved, hgone⟩ := h₁.law_unmerge hunmerge
  obtain rfl := Option.some.inj (hnew.symm.trans hgroup)
  have hmem : ∀ port, port ∈ sortNumbers ports ↔ port ∈ ports := fun port => mem_sortBy _
  have hrows := hmerged.keepsRows h fun port e _ => by simp [Endpoint.isVacant]
  have hboth := hmerged.trans hrows hdissolved hmem
  simp only [hmem, or_self] at hboth
  exact ⟨r', hunmerge, { hboth with
    group_kept := fun k _ => by
      by_cases hk : k = key
      · rw [hk, hgone, hfresh]
      · exact hboth.group_kept k hk }⟩

theorem ids_unmerge (hunmerge : r.unmerge key ports = .ok r') : r'.ids = r.ids := by
  obtain ⟨group, hkey, -, rfl⟩ := unmerge_eq_ok hunmerge
  -- Every port of a group has its row, so none is opened and no id is drawn.
  refine ids_writeEndpoints group.keepFirst fun port hport => ?_
  have hnamed :=
    h.group_iff.2 ⟨group, hkey, rfl, (rfl : _ = PortSide.side ⟨port, group.side⟩), hport⟩
  exact (h.row_iff _ _).2 ⟨group.side, by simp [Endpoint.isVacant, hnamed]⟩

end WellFormed

theorem inherits_merge (hmerge : r.merge limits id ports side = .ok (key, r')) : Inherits r r' := by
  obtain ⟨sorted, -, -, -, rfl⟩ := merge_eq_ok hmerge
  have hnamed : ∀ groups, Inherits r { r with groups, ids := r.ids.next.2 } :=
    fun groups place row hrow => .inl ⟨row, hrow, rfl⟩
  exact (hnamed _).trans (inherits_writeEndpoints ..) ⟨rfl, rfl, rfl, rfl, Nat.le_succ _⟩
    (frame_writeEndpoints ..)

theorem inherits_unmerge (hunmerge : r.unmerge key ports = .ok r') : Inherits r r' := by
  obtain ⟨group, -, -, rfl⟩ := unmerge_eq_ok hunmerge
  refine Inherits.trans (inherits_writeEndpoints r group.structureId group.side group.keepFirst
    group.ports) ((OnlyKept.refl _).prune group.structureId).inherits (frame_writeEndpoints ..) ?_
  exact ⟨rfl, rfl, rfl, rfl, le_rfl⟩

end CrossConnect.Registry

namespace CrossConnect.Server

open Registry

/-- Whatever an authority recorded, an accepted merge can be taken back by dissolving the new group,
named by the ports in any order. All merge groups and all other endpoints are as before, and every
row keeps its identity or gets one that was just drawn. The rows are exactly as before when no port
above the lowest had a fiber, and only then. -/
theorem unmerge_of_merge {s : Server} (h : s.Reachable) {id : StructureId} {side : Side}
    {ports again : List PortNumber} {key : MergeGroupId} {r : Registry}
    (hmerge : s.registry.merge s.limits id ports side = .ok (key, r)) (hids : r.ids.Distinct)
    (hperm : again.Perm ports) :
    ∃ r' fiber, r.unmerge key again = .ok r' ∧ s.registry.LowestFiber id side ports fiber ∧
      s.registry.Rewrites r' id side (· ∈ ports)
        (fun port _ => { fiber := if ∀ q ∈ ports, port ≤ q then fiber else none })
        (fun _ => False) ∧
      (∀ place row, r'.rows.find? place = some row → s.registry.rows.find? place = none →
        s.registry.DrawnSince r' row.id ∧
          (∀ old earlier, s.registry.rows.find? old = some earlier → earlier.id ≠ row.id) ∧
          ∀ other later, r'.rows.find? other = some later → later.id = row.id → other = place) ∧
      ((∀ place, r'.rows.find? place = s.registry.rows.find? place) ↔
        ∀ port ∈ ports, (∃ lower ∈ ports, lower < port) →
          (s.registry.endpoint id ⟨port, side⟩).fiber = none) := by
  obtain ⟨-, -, -, hkey, -⟩ := merge_eq_ok hmerge
  have hnamed := frame_merge hmerge
  have hframe : s.registry.Frame r :=
    ⟨hnamed.componentTypes, hnamed.structures, hnamed.cables, hnamed.draw,
      (Nat.le_succ _).trans hnamed.drawn⟩
  have hs := h.sound (hframe.distinct hids)
  have hfresh : s.registry.groups.find? key = none :=
    hkey ▸ hs.drawn.next_fresh (hnamed.distinct hids)
  obtain ⟨r', hunmerge, hrewrites⟩ := hs.wellFormed.rewrites_unmerge_merge hmerge hfresh hperm
  have hr := hs.wellFormed.merge hmerge (hkey ▸ hfresh)
  have hids' : r'.ids.Distinct := (hr.ids_unmerge hunmerge).symm ▸ hids
  have hdrawn := h.rowsDrawn (hframe.distinct hids)
  have hdrawn' := (hdrawn.merge hmerge hids).unmerge hunmerge hids'
  have hinherits := (inherits_merge hmerge).trans (inherits_unmerge hunmerge) hframe
    (frame_unmerge hunmerge)
  have hlowest := lowestFiber_firstFiber s.registry id side ports
  refine ⟨r', _, hunmerge, hlowest, hrewrites, fun place row hrow hnone => ?_, ?_⟩
  · have hsince : s.registry.DrawnSince r' row.id := (hinherits hrow).resolve_left fun hkept => by
      obtain ⟨old, hold, -⟩ := hkept
      rw [hnone] at hold
      cases hold
    exact ⟨hsince, fun _ _ => hdrawn.ne_of_drawnSince hrewrites.frame hids' hsince,
      fun _ _ hlater heq => hdrawn'.apart hlater hrow heq⟩
  · rw [hrewrites.rows_eq_iff hs.wellFormed (hr.unmerge hunmerge), ← hlowest.keeps_iff]
    refine forall₂_congr fun port hport => ?_
    rw [hs.wellFormed.endpoint_of_merge hmerge hport]
    simp

theorem unmerge_of_small_merge :
    let requests : List Request :=
      [.call (.place ⟨smallTray.id, ⟨1, .a⟩, (smallFiber 1).ref⟩),
        .call (.place ⟨smallTray.id, ⟨3, .b⟩, (smallFiber 2).ref⟩)]
    let server := (ofPlan {} smallPlan (.numbered 0 0)).serveAll requests
    ∃ key r r', server.registry.merge server.limits smallTray.id [3, 1, 2] .a = .ok (key, r) ∧
      r.unmerge key [2, 3, 1] = .ok r' ∧
      ∀ place, r'.rows.find? place = server.registry.rows.find? place := by
  intro requests server
  have hmerged : ((server.registry.merge server.limits smallTray.id [3, 1, 2] .a).toOption.map
      fun merged => decide merged.2.ids.Distinct) = some true := by decide +kernel
  obtain ⟨⟨key, r⟩, hmerge, hids⟩ := Option.map_eq_some_iff.1 hmerged
  cases hfound : server.registry.merge server.limits smallTray.id [3, 1, 2] .a with
  | error e =>
    rw [hfound] at hmerge
    cases hmerge
  | ok merged =>
    rw [hfound] at hmerge
    obtain rfl := Option.some.inj hmerge
    have hperm : [(2 : PortNumber), 3, 1].Perm [3, 1, 2] := by decide
    obtain ⟨r', fiber, hunmerge, -, -, -, hrestored⟩ := unmerge_of_merge ⟨_, _, _, _, rfl⟩ hfound
      (of_decide_eq_true hids) hperm
    have hbare : (server.registry.endpoint smallTray.id ⟨2, .a⟩).fiber = none ∧
        (server.registry.endpoint smallTray.id ⟨3, .a⟩).fiber = none := by decide +kernel
    refine ⟨key, r, r', rfl, hunmerge, hrestored.2 fun port hport hlower => ?_⟩
    simp only [List.mem_cons, List.not_mem_nil, or_false] at hport hlower
    rcases hport with rfl | rfl | rfl
    · exact hbare.2
    · obtain ⟨lower, rfl | rfl | rfl, hlt⟩ := hlower <;> exact absurd hlt (by decide)
    · exact hbare.1

end CrossConnect.Server
