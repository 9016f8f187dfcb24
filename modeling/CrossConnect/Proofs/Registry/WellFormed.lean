import CrossConnect.Proofs.Registry.Effect

/-!
The invariant that rows and merge groups keep together. Membership is recorded twice, with the group
and on every row of it, so the clauses lean on each other: writes spread over whole groups because
the rows name the groups, and the rows name the groups because writes spread.
-/
namespace CrossConnect.Registry

variable {r r' : Registry} {id other : StructureId} {side : Side} {spot : PortSide}
  {port : PortNumber} {ports : List PortNumber} {row : Splice} {group : MergeGroup}
  {key : MergeGroupId} {limits : Limits}

structure WellFormed (r : Registry) (limits : Limits) : Prop where
  row_at : ∀ {id port row}, r.rows.find? (id, port) = some row →
    row.structureId = id ∧ row.port = port ∧ row.id.isTemporary = false
  row_filled : ∀ {id port row}, r.rows.find? (id, port) = some row → row.isEmpty = false
  /-- A port side names exactly the group that has it. -/
  group_iff : ∀ {id spot key}, (r.endpoint id spot).group = some key ↔
    ∃ group, r.groups.find? key = some group ∧ group.Covers id spot
  span_of_group : ∀ {id spot key group}, r.groups.find? key = some group → group.Covers id spot →
    ∃ span, (r.endpoint id spot).span = some span ∧ span.ports = group.ports ∧
      span.size.toNat = group.ports.length
  span_of_ungrouped : ∀ {id spot}, (r.endpoint id spot).group = none →
    (r.endpoint id spot).span = none
  group_id : ∀ {key group}, r.groups.find? key = some group → group.id = key
  group_run : ∀ {key group}, r.groups.find? key = some group → PortRun.IsRun group.ports
  group_size : ∀ {key group}, r.groups.find? key = some group →
    2 ≤ group.ports.length ∧ group.ports.length ≤ limits.groupSize
  group_ports : ∀ {key group}, r.groups.find? key = some group →
    ∀ port ∈ group.ports, r.HasPort group.structureId ⟨port, group.side⟩
  group_disjoint : ∀ {key key' group group'}, r.groups.find? key = some group →
    r.groups.find? key' = some group' → key ≠ key' → group.structureId = group'.structureId →
    group.side = group'.side → group.ports.Disjoint group'.ports
  group_fiber : ∀ {id key group a b}, r.groups.find? key = some group → group.Covers id a →
    group.Covers id b → (r.endpoint id a).fiber = (r.endpoint id b).fiber
  port_of_filled : ∀ {id spot}, (r.endpoint id spot).isVacant = false → r.HasPort id spot

/-! ### Reading it -/

namespace WellFormed

theorem of_empty (hrows : r.rows = .empty) (hgroups : r.groups = .empty) : r.WellFormed limits := by
  have hrow : ∀ key, r.rows.find? key = none := fun key => by rw [hrows]; rfl
  have hgroup : ∀ key, r.groups.find? key = none := fun key => by rw [hgroups]; rfl
  have hendpoint : ∀ id spot, r.endpoint id spot = {} := fun id spot => endpoint_of_no_row (hrow _)
  constructor <;> simp [hrow, hgroup, hendpoint, Endpoint.isVacant]

variable (h : r.WellFormed limits)

include h

theorem key_unique {key' : MergeGroupId} {group' : MergeGroup}
    (hkey : r.groups.find? key = some group) (hkey' : r.groups.find? key' = some group')
    (hcovers : group.Covers id spot) (hcovers' : group'.Covers id spot) :
    key' = key ∧ group' = group := by
  have heq : some key' = some key :=
    (h.group_iff.2 ⟨group', hkey', hcovers'⟩).symm.trans (h.group_iff.2 ⟨group, hkey, hcovers⟩)
  obtain rfl := Option.some.inj heq
  exact ⟨rfl, Option.some.inj (hkey'.symm.trans hkey)⟩

theorem exists_covers (hkey : r.groups.find? key = some group) :
    ∃ spot, group.Covers group.structureId spot := by
  obtain ⟨port, hport⟩ := List.exists_mem_of_length_pos
    (Nat.lt_of_lt_of_le Nat.zero_lt_two (h.group_size hkey).1)
  exact ⟨⟨port, group.side⟩, rfl, rfl, hport⟩

theorem group_endpoint : (r.endpoint id spot).group = (r.groupAt id spot).map (·.id) := by
  cases hat : r.groupAt id spot with
  | none =>
    refine Option.eq_none_iff_forall_ne_some.2 fun key hkey => ?_
    obtain ⟨group, hgroup, hcovers⟩ := h.group_iff.1 hkey
    exact groupAt_eq_none hat hgroup hcovers
  | some group =>
    obtain ⟨key, hkey, hcovers⟩ := groupAt_eq_some hat
    have hid : r.groups.find? group.id = some group := by rw [h.group_id hkey, hkey]
    exact h.group_iff.2 ⟨group, hid, hcovers⟩

theorem mem_fanOut_of_covers {p q : PortNumber} (hkey : r.groups.find? key = some group)
    (hp : group.Covers id ⟨p, spot.side⟩) (hq : group.Covers id ⟨q, spot.side⟩)
    (hmem : p ∈ r.fanOut id spot) : q ∈ r.fanOut id spot := by
  simp only [fanOut] at hmem ⊢
  cases hat : r.groupAt id spot with
  | none =>
    rw [hat] at hmem
    obtain rfl := List.mem_singleton.1 hmem
    exact absurd hp (groupAt_eq_none hat hkey)
  | some found =>
    rw [hat] at hmem
    obtain ⟨key', hkey', hid, hside, -⟩ := groupAt_eq_some hat
    rw [← (h.key_unique hkey hkey' hp ⟨hid, hside, hmem⟩).2] at hq
    exact hq.2.2

theorem nodup_fanOut : (r.fanOut id spot).Nodup := by
  simp only [fanOut]
  split
  next group hat =>
    obtain ⟨key, hkey, -⟩ := groupAt_eq_some hat
    exact (h.group_run hkey).nodup
  next => exact List.nodup_singleton _

theorem hasPort_fanOut (hport : r.HasPort id spot) :
    ∀ p ∈ r.fanOut id spot, r.HasPort id ⟨p, spot.side⟩ := by
  intro p hp
  simp only [fanOut] at hp
  cases hat : r.groupAt id spot with
  | none =>
    rw [hat] at hp
    obtain rfl := List.mem_singleton.1 hp
    exact hport
  | some group =>
    rw [hat] at hp
    obtain ⟨key, hkey, hid, hside, -⟩ := groupAt_eq_some hat
    have := h.group_ports hkey p hp
    rwa [hid, hside] at this

theorem span_of_vacant (hvacant : (r.endpoint id spot).isVacant = true) :
    (r.endpoint id spot).span = none :=
  h.span_of_ungrouped (by simp_all [Endpoint.isVacant])

end WellFormed

end CrossConnect.Registry
