import CrossConnect.Proofs.Registry.WellFormed

/-!
Every accepted operation keeps the registry well formed. Placing, clearing and uploading change
fibers only, on a set of ports that no merge group straddles, and share one lemma; merging and
dissolving change the groups themselves.
-/
namespace CrossConnect

/-- All identifiers drawn from the stream so far are different. -/
def IdSource.Distinct (ids : IdSource) : Prop :=
  ∀ m < ids.drawn, ∀ n < ids.drawn, ids.draw m = ids.draw n → m = n

instance (ids : IdSource) : Decidable ids.Distinct :=
  inferInstanceAs (Decidable (∀ m < ids.drawn, ∀ n < ids.drawn, ids.draw m = ids.draw n → m = n))

namespace Registry

variable {r r' : Registry} {id other : StructureId} {side : Side} {spot : PortSide}
  {port : PortNumber} {ports : List PortNumber} {row : Splice} {group : MergeGroup}
  {key : MergeGroupId} {limits : Limits}

theorem Frame.distinct (h : Frame r r') (hids : r'.ids.Distinct) : r.ids.Distinct :=
  fun m hm n hn hdraw => hids m (hm.trans_le h.drawn) n (hn.trans_le h.drawn)
    (by rw [h.draw, hdraw])

/-! ### Rows -/

def RowsAt (r : Registry) : Prop :=
  ∀ ⦃id port row⦄, r.rows.find? (id, port) = some row →
    row.structureId = id ∧ row.port = port ∧ row.id.isTemporary = false

theorem RowsAt.openRow (h : r.RowsAt) (id : StructureId) (port : PortNumber) :
    (r.openRow id port).2.RowsAt ∧ (r.openRow id port).1.structureId = id ∧
      (r.openRow id port).1.port = port ∧ (r.openRow id port).1.id.isTemporary = false := by
  cases hfind : r.rows.find? (id, port) with
  | some row =>
    rw [openRow_of_row hfind]
    exact ⟨h, h hfind⟩
  | none =>
    rw [openRow_of_no_row hfind]
    refine ⟨fun other port' row hrow => ?_, rfl, rfl, rfl⟩
    rw [Table.find?_insert] at hrow
    split at hrow
    next heq =>
      obtain ⟨rfl, rfl⟩ := Prod.mk.inj heq
      obtain rfl := Option.some.inj hrow
      exact ⟨rfl, rfl, rfl⟩
    next => exact h hrow

theorem RowsAt.writeEndpoint (h : r.RowsAt) (id : StructureId) (side : Side)
    (f : Endpoint → Endpoint) (port : PortNumber) : (r.writeEndpoint id side f port).RowsAt := by
  intro other port' row hrow
  rw [find?_writeEndpoint] at hrow
  split at hrow
  next heq =>
    obtain ⟨rfl, rfl⟩ := Prod.mk.inj heq
    obtain rfl := Option.some.inj hrow
    simpa using (h.openRow other port').2
  next => exact h hrow

theorem RowsAt.writeEndpoints (h : r.RowsAt) (id : StructureId) (side : Side)
    (f : PortNumber → Endpoint → Endpoint) (ports : List PortNumber) :
    (r.writeEndpoints id side f ports).RowsAt := by
  induction ports generalizing r with
  | nil => exact h
  | cons port ports ih => exact ih (h.writeEndpoint id side (f port) port)

theorem RowsAt.prune (h : r.RowsAt) (id : StructureId) : (r.prune id).RowsAt := by
  intro other port row hrow
  rw [find?_prune, Option.filter_eq_some_iff] at hrow
  exact h hrow.1

def RowsFilled (r : Registry) : Prop :=
  ∀ ⦃id port row⦄, r.rows.find? (id, port) = some row → row.isEmpty = false

theorem RowsFilled.writeEndpoints (h : r.RowsFilled) (f : PortNumber → Endpoint → Endpoint)
    (hnodup : ports.Nodup) (hf : ∀ port e, (f port e).isVacant = false) :
    (r.writeEndpoints id side f ports).RowsFilled := by
  intro other port row hrow
  by_cases hmem : other = id ∧ port ∈ ports
  · have hwritten := endpoint_writeEndpoints r id side f hnodup other ⟨port, side⟩
    rw [if_pos ⟨hmem.1, rfl, hmem.2⟩, endpoint_of_row hrow] at hwritten
    by_contra hempty
    have hvacant := Splice.isEmpty_iff.1 (Bool.not_eq_false _ ▸ hempty) side
    rw [hwritten, hf] at hvacant
    cases hvacant
  · rw [find?_writeEndpoints_of_ne r side f hmem] at hrow
    exact h hrow

theorem rowsFilled_prune
    (h : ∀ other port row, other ≠ id → r.rows.find? (other, port) = some row →
      row.isEmpty = false) :
    (r.prune id).RowsFilled := by
  intro other port row hrow
  rw [find?_prune, Option.filter_eq_some_iff] at hrow
  obtain ⟨hrow, hkeep⟩ := hrow
  by_cases hid : other = id
  · simpa [hid] using hkeep
  · exact h other port row hid hrow

/-! ### Changes of fibers -/

structure SameShape (group group' : MergeGroup) : Prop where
  id : group'.id = group.id
  structureId : group'.structureId = group.structureId
  side : group'.side = group.side
  ports : group'.ports = group.ports

theorem SameShape.covers_iff {group group' : MergeGroup} (h : SameShape group group') :
    group'.Covers id spot ↔ group.Covers id spot := by
  simp only [MergeGroup.Covers, h.structureId, h.side, h.ports]

def SameGroups (r r' : Registry) : Prop :=
  ∀ key, ∃ fibers : MergeGroup → List Termination,
    r'.groups.find? key = (r.groups.find? key).map fun group =>
      { group with fibers := fibers group }

theorem SameGroups.of_eq (h : r'.groups = r.groups) : SameGroups r r' := fun key =>
  ⟨(·.fibers), by simp [h]⟩

theorem SameGroups.of_modify {fibers : List Termination}
    (h : r'.groups = r.groups.modify key ({ · with fibers })) : SameGroups r r' := fun key' => by
  by_cases hkey : key' = key
  · exact ⟨fun _ => fibers, by rw [h, Table.find?_modify, if_pos hkey]⟩
  · exact ⟨(·.fibers), by simp [h, Table.find?_modify, hkey]⟩

theorem SameGroups.back (h : SameGroups r r') {group' : MergeGroup}
    (hkey : r'.groups.find? key = some group') :
    ∃ group, r.groups.find? key = some group ∧ SameShape group group' := by
  obtain ⟨fibers, hfibers⟩ := h key
  rw [hkey] at hfibers
  obtain ⟨group, hgroup, rfl⟩ := Option.map_eq_some_iff.1 hfibers.symm
  exact ⟨group, hgroup, rfl, rfl, rfl, rfl⟩

theorem SameGroups.forth (h : SameGroups r r') (hkey : r.groups.find? key = some group) :
    ∃ group', r'.groups.find? key = some group' ∧ SameShape group group' := by
  obtain ⟨fibers, hfibers⟩ := h key
  rw [hkey] at hfibers
  exact ⟨_, hfibers, rfl, rfl, rfl, rfl⟩

def Closed (r : Registry) (id : StructureId) (side : Side) (ports : List PortNumber) : Prop :=
  ∀ {key group p q}, r.groups.find? key = some group → group.Covers id ⟨p, side⟩ →
    group.Covers id ⟨q, side⟩ → p ∈ ports → q ∈ ports

/-- What a change of fibers amounts to. -/
structure FiberChange (r r' : Registry) (id : StructureId) (side : Side) (ports : List PortNumber)
    (fiber : Option Termination) : Prop where
  frame : Frame r r'
  groups : SameGroups r r'
  endpoint : ∀ other spot, r'.endpoint other spot =
    if other = id ∧ spot.side = side ∧ spot.port ∈ ports then { r.endpoint other spot with fiber }
    else r.endpoint other spot

theorem WellFormed.rowsAt (h : r.WellFormed limits) : r.RowsAt :=
  fun _ _ _ => h.row_at

theorem WellFormed.rowsFilled (h : r.WellFormed limits) : r.RowsFilled :=
  fun _ _ _ => h.row_filled

theorem WellFormed.fiberChange {fiber : Option Termination} (h : r.WellFormed limits)
    (hchange : FiberChange r r' id side ports fiber) (hrows : r'.RowsAt)
    (hfilled : r'.RowsFilled)
    (hclosed : r.Closed id side ports)
    (hports : fiber.isSome → ∀ p ∈ ports, r.HasPort id ⟨p, side⟩) : r'.WellFormed limits := by
  obtain ⟨hframe, hgroups, hendpoint⟩ := hchange
  have hgroup : ∀ other spot, (r'.endpoint other spot).group = (r.endpoint other spot).group :=
    fun other spot => by rw [hendpoint]; split <;> rfl
  have hspan : ∀ other spot, (r'.endpoint other spot).span = (r.endpoint other spot).span :=
    fun other spot => by rw [hendpoint]; split <;> rfl
  constructor
  case row_at => exact fun hrow => hrows hrow
  case row_filled => exact fun hrow => hfilled hrow
  case group_iff =>
    intro other spot key
    rw [hgroup, h.group_iff]
    constructor
    · rintro ⟨group, hkey, hcovers⟩
      obtain ⟨group', hkey', hshape⟩ := hgroups.forth hkey
      exact ⟨group', hkey', hshape.covers_iff.2 hcovers⟩
    · rintro ⟨group', hkey', hcovers⟩
      obtain ⟨group, hkey, hshape⟩ := hgroups.back hkey'
      exact ⟨group, hkey, hshape.covers_iff.1 hcovers⟩
  case span_of_group =>
    intro other spot key group' hkey' hcovers
    obtain ⟨group, hkey, hshape⟩ := hgroups.back hkey'
    rw [hspan, hshape.ports]
    exact h.span_of_group hkey (hshape.covers_iff.1 hcovers)
  case span_of_ungrouped =>
    intro other spot hnone
    rw [hgroup] at hnone
    rw [hspan]
    exact h.span_of_ungrouped hnone
  case group_id =>
    intro key group' hkey'
    obtain ⟨group, hkey, hshape⟩ := hgroups.back hkey'
    rw [hshape.id]
    exact h.group_id hkey
  case group_run =>
    intro key group' hkey'
    obtain ⟨group, hkey, hshape⟩ := hgroups.back hkey'
    rw [hshape.ports]
    exact h.group_run hkey
  case group_size =>
    intro key group' hkey'
    obtain ⟨group, hkey, hshape⟩ := hgroups.back hkey'
    rw [hshape.ports]
    exact h.group_size hkey
  case group_ports =>
    intro key group' hkey' port hport
    obtain ⟨group, hkey, hshape⟩ := hgroups.back hkey'
    rw [hshape.ports] at hport
    rw [hshape.structureId, hshape.side]
    exact hframe.hasPort_iff.2 (h.group_ports hkey port hport)
  case group_disjoint =>
    intro key₁ key₂ group₁ group₂ hkey₁ hkey₂
    obtain ⟨old₁, hold₁, hshape₁⟩ := hgroups.back hkey₁
    obtain ⟨old₂, hold₂, hshape₂⟩ := hgroups.back hkey₂
    rw [hshape₁.structureId, hshape₁.side, hshape₁.ports, hshape₂.structureId, hshape₂.side,
      hshape₂.ports]
    exact h.group_disjoint hold₁ hold₂
  case group_fiber =>
    intro other key group' a b hkey' ha hb
    obtain ⟨group, hkey, hshape⟩ := hgroups.back hkey'
    rw [hshape.covers_iff] at ha hb
    have hside : a.side = b.side := ha.2.1.symm.trans hb.2.1
    have hold := h.group_fiber hkey ha hb
    -- Both port sides are written or neither is, since the ports do not straddle the group.
    have hboth : other = id ∧ a.side = side ∧ a.port ∈ ports ↔
        other = id ∧ b.side = side ∧ b.port ∈ ports := by
      constructor
      · rintro ⟨rfl, rfl, hmem⟩
        exact ⟨rfl, hside.symm, hclosed hkey ha (hside ▸ hb) hmem⟩
      · rintro ⟨rfl, rfl, hmem⟩
        exact ⟨rfl, hside, hclosed hkey hb (hside ▸ ha) hmem⟩
    rw [hendpoint other a, hendpoint other b]
    by_cases hmem : other = id ∧ a.side = side ∧ a.port ∈ ports
    · rw [if_pos hmem, if_pos (hboth.1 hmem)]
    · rw [if_neg hmem, if_neg (mt hboth.2 hmem), hold]
  case port_of_filled =>
    intro other spot hvacant
    rw [hframe.hasPort_iff]
    rw [hendpoint] at hvacant
    split at hvacant
    next hmem =>
      obtain ⟨rfl, rfl, hmem⟩ := hmem
      cases fiber with
      | some fiber => exact hports rfl spot.port hmem
      | none =>
        refine h.port_of_filled ?_
        simp_all [Endpoint.isVacant]
    next => exact h.port_of_filled hvacant

theorem WellFormed.closed_fanOut (h : r.WellFormed limits) :
    r.Closed id spot.side (r.fanOut id spot) :=
  fun hkey hp hq hmem => h.mem_fanOut_of_covers hkey hp hq hmem

theorem WellFormed.closed_group (h : r.WellFormed limits) (hkey : r.groups.find? key = some group) :
    r.Closed group.structureId group.side group.ports := by
  intro key' group' p q hkey' hp hq hmem
  have heq := (h.key_unique hkey hkey' ⟨rfl, rfl, hmem⟩ hp).2
  rw [← heq]
  exact hq.2.2

/-! ### Placing -/

theorem fiberChange_writeEndpoints (r : Registry) (id : StructureId) (side : Side)
    (fiber : Option Termination) (hnodup : ports.Nodup) :
    FiberChange r (r.writeEndpoints id side (fun _ e => { e with fiber }) ports) id side ports
      fiber where
  frame := frame_writeEndpoints ..
  groups := .of_eq (groups_writeEndpoints ..)
  endpoint := endpoint_writeEndpoints r id side _ hnodup

theorem WellFormed.place_eq_ok (h : r.WellFormed limits) {p : Placement}
    (hplace : r.place p = .ok (row, r')) :
    r.HasPort p.structureId p.spot ∧ r'.rows.find? (p.structureId, p.spot.port) = some row ∧
      ∃ fiber, r.terminate p.fiber = .ok fiber ∧
        r' = r.writeEndpoints p.structureId p.spot.side (fun _ e => { e with fiber := some fiber })
          (r.fanOut p.structureId p.spot) := by
  obtain ⟨hport, fiber, hfiber, heq⟩ := Registry.place_eq_ok hplace
  obtain ⟨uuid, huuid⟩ := find?_writeEndpoints_of_mem r p.structureId p.spot.side
    (fun _ e => { e with fiber := some fiber }) h.nodup_fanOut
    (mem_fanOut_self r p.structureId p.spot)
  -- The fan-out made the row of the answer, so it is found there and not opened anew.
  rw [openRow_of_row huuid] at heq
  obtain ⟨rfl, rfl⟩ := Prod.mk.inj heq
  exact ⟨hport, huuid, fiber, hfiber, rfl⟩

theorem WellFormed.place (h : r.WellFormed limits) {p : Placement}
    (hplace : r.place p = .ok (row, r')) : r'.WellFormed limits := by
  obtain ⟨hport, -, fiber, -, rfl⟩ := h.place_eq_ok hplace
  refine h.fiberChange (fiberChange_writeEndpoints r _ _ (some fiber) h.nodup_fanOut)
    (h.rowsAt.writeEndpoints _ _ _ _)
    (h.rowsFilled.writeEndpoints _ h.nodup_fanOut fun _ _ => rfl) h.closed_fanOut
    fun _ => h.hasPort_fanOut hport

/-! ### Clearing -/

theorem find?_vacated (r : Registry) (id : StructureId) (side : Side) (ports : List PortNumber)
    (other : StructureId) (port : PortNumber) :
    (r.vacated id side ports).find? (other, port) = (r.rows.find? (other, port)).map fun row =>
      if other = id ∧ port ∈ ports then row.setFiber side none else row :=
  Table.find?_mapEntries ..

theorem endpoint_vacated (hrows : r'.rows = r.vacated id side ports) :
    r'.endpoint other spot =
      if other = id ∧ spot.side = side ∧ spot.port ∈ ports
      then { r.endpoint other spot with fiber := none } else r.endpoint other spot := by
  simp only [endpoint]
  rw [hrows, find?_vacated]
  cases r.rows.find? (other, spot.port) with
  | none => simp
  | some row =>
    by_cases hmem : other = id ∧ spot.port ∈ ports
    · by_cases hside : spot.side = side <;> simp [Splice.setFiber, hmem, hside]
    · have : ¬(other = id ∧ spot.side = side ∧ spot.port ∈ ports) := fun h => hmem ⟨h.1, h.2.2⟩
      simp [hmem, this]

theorem rowsAt_vacated (h : r.RowsAt) (hrows : r'.rows = r.vacated id side ports) : r'.RowsAt := by
  intro other port row hrow
  rw [hrows, find?_vacated] at hrow
  obtain ⟨old, hold, rfl⟩ := Option.map_eq_some_iff.1 hrow
  have := h hold
  split <;> simpa [Splice.setFiber] using this

theorem sameGroups_withoutUpload (hgroups : r'.groups = r.withoutUpload id spot) :
    SameGroups r r' := by
  simp only [withoutUpload] at hgroups
  split at hgroups
  · exact .of_modify hgroups
  · exact .of_eq hgroups

theorem WellFormed.clear_fiberChange (h : r.WellFormed limits) {outcome : ClearOutcome}
    (hclear : r.clear id spot = .ok (outcome, r')) :
    FiberChange r r' id spot.side (r.fanOut id spot) none := by
  obtain ⟨-, rfl⟩ := clear_eq_ok hclear
  refine ⟨⟨rfl, rfl, rfl, rfl, le_rfl⟩, sameGroups_withoutUpload rfl, fun other spot' => ?_⟩
  rw [endpoint_prune, endpoint_vacated rfl]
  rw [endpoint_vacated (r := r) rfl]
  intro hvacant
  have hgroup : (r.endpoint other spot').group = none := by
    split at hvacant <;> simp_all [Endpoint.isVacant]
  have hspan := h.span_of_ungrouped hgroup
  split <;> simpa using hspan

theorem WellFormed.clear (h : r.WellFormed limits) {outcome : ClearOutcome}
    (hclear : r.clear id spot = .ok (outcome, r')) : r'.WellFormed limits := by
  have hchange := h.clear_fiberChange hclear
  obtain ⟨-, rfl⟩ := clear_eq_ok hclear
  refine h.fiberChange hchange ((rowsAt_vacated h.rowsAt rfl).prune id)
    (rowsFilled_prune fun other port row hne hrow => ?_) h.closed_fanOut (by simp)
  rw [find?_vacated] at hrow
  simp only [hne, false_and, if_false, Option.map_id'] at hrow
  exact h.row_filled hrow

/-! ### Uploading -/

theorem mapM_ne_nil {α β : Type} {f : α → Except Failure β} {as : List α} {bs : List β}
    (h : as.mapM f = .ok bs) (hne : as ≠ []) : bs ≠ [] := by
  cases as with
  | nil => exact absurd rfl hne
  | cons a as =>
    rw [List.mapM_cons] at h
    simp only [bind_eq_ok] at h
    obtain ⟨b, -, bs', -, h⟩ := h
    rw [← Except.ok.inj h]
    exact List.cons_ne_nil _ _

theorem frame_upload {fibers : List FiberRef} (h : r.upload limits key side fibers = .ok r') :
    Frame r r' := by
  obtain ⟨group, -, -, -, -, -, shown, -, rfl⟩ := upload_eq_ok h
  exact (frame_writeEndpoints r group.structureId side _ group.ports).trans
    ⟨rfl, rfl, rfl, rfl, le_rfl⟩

theorem WellFormed.upload_eq_ok (h : r.WellFormed limits) {fibers : List FiberRef}
    (hupload : r.upload limits key side fibers = .ok r') :
    ∃ group first shown, r.groups.find? key = some group ∧ group.side = side ∧
      fibers.mapM r.terminate = .ok (first :: shown) ∧
      FiberChange r r' group.structureId side group.ports (some first) ∧
      r' = { r.writeEndpoints group.structureId side (fun _ e => { e with fiber := some first })
          group.ports with
        groups := r.groups.modify key ({ · with fibers := first :: shown }) } := by
  have hframe := frame_upload hupload
  obtain ⟨group, hkey, hside, hne, -, -, shown, hshown, rfl⟩ := Registry.upload_eq_ok hupload
  cases shown with
  | nil => exact absurd rfl (mapM_ne_nil hshown hne)
  | cons first shown =>
    have hwritten := fiberChange_writeEndpoints r group.structureId side (some first)
      (h.group_run hkey).nodup
    exact ⟨group, first, shown, hkey, hside, hshown,
      ⟨hframe, .of_modify rfl, hwritten.endpoint⟩, rfl⟩

theorem WellFormed.upload (h : r.WellFormed limits) {fibers : List FiberRef}
    (hupload : r.upload limits key side fibers = .ok r') : r'.WellFormed limits := by
  obtain ⟨group, first, shown, hkey, rfl, -, hchange, rfl⟩ := h.upload_eq_ok hupload
  have hnodup := (h.group_run hkey).nodup
  refine h.fiberChange hchange ?_ ?_ (h.closed_group hkey) fun _ => h.group_ports hkey
  · exact h.rowsAt.writeEndpoints _ _ _ _
  · exact h.rowsFilled.writeEndpoints _ hnodup fun _ _ => rfl

/-! ### Merging -/

theorem WellFormed.addGroup (h : r.WellFormed limits) (group : MergeGroup)
    (fiber : Option Termination) (hframe : Frame r r') (hrows : r'.RowsAt) (hfilled : r'.RowsFilled)
    (hgroups : ∀ k, r'.groups.find? k = if k = group.id then some group else r.groups.find? k)
    (hendpoint : ∀ other spot, r'.endpoint other spot =
      if group.Covers other spot then ⟨fiber, some group.id, some group.span⟩
      else r.endpoint other spot)
    (hfresh : r.groups.find? group.id = none) (hrun : PortRun.IsRun group.ports)
    (hsize : 2 ≤ group.ports.length ∧ group.ports.length ≤ limits.groupSize)
    (hports : ∀ p ∈ group.ports, r.HasPort group.structureId ⟨p, group.side⟩)
    (hfree : ∀ other spot, group.Covers other spot → (r.endpoint other spot).group = none) :
    r'.WellFormed limits := by
  have hold : ∀ {k g}, r.groups.find? k = some g → k ≠ group.id := by
    rintro k g hk rfl
    rw [hfresh] at hk
    cases hk
  have hapart : ∀ {k g other spot}, r.groups.find? k = some g → g.Covers other spot →
      ¬group.Covers other spot := fun hk hcovers hnew => by
    have hnone := hfree _ _ hnew
    rw [h.group_iff.2 ⟨_, hk, hcovers⟩] at hnone
    cases hnone
  have hcases : ∀ {k g}, r'.groups.find? k = some g →
      k = group.id ∧ g = group ∨ k ≠ group.id ∧ r.groups.find? k = some g := by
    intro k g hk
    rw [hgroups] at hk
    split at hk
    next heq => exact .inl ⟨heq, (Option.some.inj hk).symm⟩
    next hne => exact .inr ⟨hne, hk⟩
  constructor
  case row_at => exact fun hrow => hrows hrow
  case row_filled => exact fun hrow => hfilled hrow
  case group_iff =>
    intro other spot k
    rw [hendpoint]
    split
    next hnew =>
      constructor
      · intro hk
        obtain rfl := Option.some.inj hk
        exact ⟨group, by rw [hgroups, if_pos rfl], hnew⟩
      · rintro ⟨g, hk, hcovers⟩
        obtain ⟨rfl, rfl⟩ | ⟨-, hk⟩ := hcases hk
        · rfl
        · exact absurd hnew (hapart hk hcovers)
    next hnew =>
      rw [h.group_iff]
      constructor
      · rintro ⟨g, hk, hcovers⟩
        exact ⟨g, by rw [hgroups, if_neg (hold hk), hk], hcovers⟩
      · rintro ⟨g, hk, hcovers⟩
        obtain ⟨rfl, rfl⟩ | ⟨-, hk⟩ := hcases hk
        · exact absurd hcovers hnew
        · exact ⟨g, hk, hcovers⟩
  case span_of_group =>
    intro other spot k g hk hcovers
    rw [hendpoint]
    obtain ⟨rfl, rfl⟩ | ⟨-, hk⟩ := hcases hk
    · rw [if_pos hcovers]
      have hlength := hrun.length_le
      refine ⟨_, rfl, hrun.sortNumbers_eq, ?_⟩
      change (UInt64.ofNat g.ports.length).toNat = _
      rw [UInt64.toNat_ofNat']
      omega
    · rw [if_neg (hapart hk hcovers)]
      exact h.span_of_group hk hcovers
  case span_of_ungrouped =>
    intro other spot hnone
    rw [hendpoint] at hnone ⊢
    split at hnone
    · cases hnone
    next hnew => rw [if_neg hnew, h.span_of_ungrouped hnone]
  case group_id =>
    intro k g hk
    obtain ⟨rfl, rfl⟩ | ⟨-, hk⟩ := hcases hk
    · rfl
    · exact h.group_id hk
  case group_run =>
    intro k g hk
    obtain ⟨-, rfl⟩ | ⟨-, hk⟩ := hcases hk
    · exact hrun
    · exact h.group_run hk
  case group_size =>
    intro k g hk
    obtain ⟨-, rfl⟩ | ⟨-, hk⟩ := hcases hk
    · exact hsize
    · exact h.group_size hk
  case group_ports =>
    intro k g hk p hp
    rw [hframe.hasPort_iff]
    obtain ⟨-, rfl⟩ | ⟨-, hk⟩ := hcases hk
    · exact hports p hp
    · exact h.group_ports hk p hp
  case group_disjoint =>
    intro k₁ k₂ g₁ g₂ hk₁ hk₂ hne hid hside p hp₁ hp₂
    have hcovers₁ : g₁.Covers g₁.structureId ⟨p, g₁.side⟩ := ⟨rfl, rfl, hp₁⟩
    have hcovers₂ : g₂.Covers g₁.structureId ⟨p, g₁.side⟩ := ⟨hid.symm, hside.symm, hp₂⟩
    obtain ⟨rfl, rfl⟩ | ⟨-, hk₁⟩ := hcases hk₁
    · obtain ⟨rfl, -⟩ | ⟨-, hk₂⟩ := hcases hk₂
      · exact hne rfl
      · exact hapart hk₂ hcovers₂ hcovers₁
    · obtain ⟨-, rfl⟩ | ⟨-, hk₂⟩ := hcases hk₂
      · exact hapart hk₁ hcovers₁ hcovers₂
      · exact hne (h.key_unique hk₁ hk₂ hcovers₁ hcovers₂).1.symm
  case group_fiber =>
    intro other k g a b hk ha hb
    rw [hendpoint, hendpoint]
    obtain ⟨rfl, rfl⟩ | ⟨-, hk⟩ := hcases hk
    · rw [if_pos ha, if_pos hb]
    · rw [if_neg (hapart hk ha), if_neg (hapart hk hb)]
      exact h.group_fiber hk ha hb
  case port_of_filled =>
    intro other spot hvacant
    rw [hframe.hasPort_iff]
    rw [hendpoint] at hvacant
    split at hvacant
    next hnew =>
      obtain ⟨rfl, hside, hport⟩ := hnew
      have := hports _ hport
      rwa [hside] at this
    next => exact h.port_of_filled hvacant

theorem WellFormed.merge (h : r.WellFormed limits)
    (hmerge : r.merge limits id ports side = .ok (key, r'))
    (hfresh : r.groups.find? ⟨r.ids.next.1⟩ = none) : r'.WellFormed limits := by
  obtain ⟨sorted, hsorted, hungrouped, rfl, heq⟩ := merge_eq_ok hmerge
  obtain ⟨-, htwo, hlimit, hrun⟩ := PortRun.validate_eq_ok hsorted
  have hports := fun p (hp : p ∈ sorted) => requireUngrouped_eq_ok hungrouped hp
  generalize hgroup :
      ({ id := ⟨r.ids.next.1⟩, structureId := id, side, ports := sorted, fibers := [] }
        : MergeGroup) = group at heq
  subst heq
  have hcovers : ∀ other spot, group.Covers other spot ↔
      other = id ∧ spot.side = side ∧ spot.port ∈ sorted := fun other spot => by
    rw [← hgroup, MergeGroup.Covers, eq_comm, eq_comm (a := side)]
  generalize hopened :
      ({ r with groups := r.groups.insert ⟨r.ids.next.1⟩ group, ids := r.ids.next.2 }
        : Registry) = opened
  have hframe : Frame r opened := hopened ▸ ⟨rfl, rfl, rfl, rfl, Nat.le_succ _⟩
  have hrows : opened.rows = r.rows := hopened ▸ rfl
  have hid : group.id = ⟨r.ids.next.1⟩ := hgroup ▸ rfl
  refine h.addGroup group (r.firstFiber id side sorted) (hframe.trans (frame_writeEndpoints ..))
    ?_ ?_ (fun k => ?_) (fun other spot => ?_) ?_ ?_ ?_ ?_ ?_
  · refine RowsAt.writeEndpoints (fun other port row hrow => ?_) _ _ _ _
    rw [hrows] at hrow
    exact h.row_at hrow
  · refine RowsFilled.writeEndpoints (fun other port row hrow => ?_) _ hrun.nodup fun _ _ => ?_
    · rw [hrows] at hrow
      exact h.row_filled hrow
    · simp [Endpoint.isVacant]
  · rw [groups_writeEndpoints, ← hopened, hid]
    exact Table.find?_insert ..
  · rw [endpoint_writeEndpoints _ _ _ _ hrun.nodup]
    simp only [hcovers, hid, endpoint, hrows]
  · rw [hid, hfresh]
  · exact hgroup ▸ hrun
  · exact hgroup ▸ ⟨htwo, hlimit⟩
  · exact hgroup ▸ fun p hp => (hports p hp).1
  · intro other spot hnew
    obtain ⟨rfl, rfl, hport⟩ := (hcovers other spot).1 hnew
    rw [h.group_endpoint, (hports _ hport).2, Option.map_none]

/-! ### Dissolving -/

theorem WellFormed.removeGroup (h : r.WellFormed limits) (fiber : PortSide → Option Termination)
    (hframe : Frame r r') (hrows : r'.RowsAt) (hfilled : r'.RowsFilled)
    (hkey : r.groups.find? key = some group)
    (hgroups : ∀ k, r'.groups.find? k = if k = key then none else r.groups.find? k)
    (hendpoint : ∀ other spot, r'.endpoint other spot =
      if group.Covers other spot then { fiber := fiber spot } else r.endpoint other spot) :
    r'.WellFormed limits := by
  have hback : ∀ {k g}, r'.groups.find? k = some g → k ≠ key ∧ r.groups.find? k = some g := by
    intro k g hk
    rw [hgroups] at hk
    split at hk
    · cases hk
    next hne => exact ⟨hne, hk⟩
  have hapart : ∀ {k g other spot}, r'.groups.find? k = some g → g.Covers other spot →
      ¬group.Covers other spot := fun hk hcovers hgone =>
    (hback hk).1 (h.key_unique hkey (hback hk).2 hgone hcovers).1
  constructor
  case row_at => exact fun hrow => hrows hrow
  case row_filled => exact fun hrow => hfilled hrow
  case group_iff =>
    intro other spot k
    rw [hendpoint]
    split
    next hgone =>
      constructor
      · intro hnone
        cases hnone
      · rintro ⟨g, hk, hcovers⟩
        exact absurd hgone (hapart hk hcovers)
    next hgone =>
      rw [h.group_iff]
      constructor
      · rintro ⟨g, hk, hcovers⟩
        refine ⟨g, ?_, hcovers⟩
        rw [hgroups, if_neg, hk]
        rintro rfl
        obtain rfl := Option.some.inj (hkey.symm.trans hk)
        exact hgone hcovers
      · rintro ⟨g, hk, hcovers⟩
        exact ⟨g, (hback hk).2, hcovers⟩
  case span_of_group =>
    intro other spot k g hk hcovers
    rw [hendpoint, if_neg (hapart hk hcovers)]
    exact h.span_of_group (hback hk).2 hcovers
  case span_of_ungrouped =>
    intro other spot hnone
    rw [hendpoint] at hnone ⊢
    split at hnone
    next hgone => rw [if_pos hgone]
    next hgone => rw [if_neg hgone, h.span_of_ungrouped hnone]
  case group_id => exact fun hk => h.group_id (hback hk).2
  case group_run => exact fun hk => h.group_run (hback hk).2
  case group_size => exact fun hk => h.group_size (hback hk).2
  case group_ports =>
    exact fun hk p hp => hframe.hasPort_iff.2 (h.group_ports (hback hk).2 p hp)
  case group_disjoint => exact fun hk₁ hk₂ => h.group_disjoint (hback hk₁).2 (hback hk₂).2
  case group_fiber =>
    intro other k g a b hk ha hb
    rw [hendpoint, hendpoint, if_neg (hapart hk ha), if_neg (hapart hk hb)]
    exact h.group_fiber (hback hk).2 ha hb
  case port_of_filled =>
    intro other spot hvacant
    rw [hframe.hasPort_iff]
    rw [hendpoint] at hvacant
    split at hvacant
    next hgone =>
      obtain ⟨rfl, hside, hport⟩ := hgone
      have := h.group_ports hkey _ hport
      rwa [hside] at this
    next => exact h.port_of_filled hvacant

theorem WellFormed.endpoint_unmerge (h : r.WellFormed limits)
    (hkey : r.groups.find? key = some group) (hunmerge : r.unmerge key ports = .ok r')
    (other : StructureId) (spot : PortSide) :
    r'.endpoint other spot =
      if group.Covers other spot then group.keepFirst spot.port (r.endpoint other spot)
      else r.endpoint other spot := by
  obtain ⟨found, hfound, -, rfl⟩ := unmerge_eq_ok hunmerge
  obtain rfl := Option.some.inj (hkey.symm.trans hfound)
  have hcovers : group.Covers other spot ↔
      other = group.structureId ∧ spot.side = group.side ∧ spot.port ∈ group.ports := by
    rw [MergeGroup.Covers, eq_comm, eq_comm (a := group.side)]
  have hwritten := endpoint_writeEndpoints r group.structureId group.side group.keepFirst
    (h.group_run hkey).nodup other spot
  simp only [← hcovers] at hwritten
  clear hunmerge
  generalize r.writeEndpoints group.structureId group.side group.keepFirst group.ports = written
    at hwritten ⊢
  have hpruned : ({ written with groups := r.groups.erase key } : Registry).endpoint other spot =
      if group.Covers other spot then group.keepFirst spot.port (r.endpoint other spot)
      else r.endpoint other spot := hwritten
  rw [endpoint_prune, hpruned]
  rw [hpruned]
  split
  · exact fun _ => rfl
  · exact h.span_of_vacant

theorem WellFormed.unmerge (h : r.WellFormed limits) (hunmerge : r.unmerge key ports = .ok r') :
    r'.WellFormed limits := by
  obtain ⟨group, hkey, -, heq⟩ := unmerge_eq_ok hunmerge
  have hendpoint := h.endpoint_unmerge hkey hunmerge
  have hnodup := (h.group_run hkey).nodup
  have hframe := frame_writeEndpoints r group.structureId group.side group.keepFirst group.ports
  have hrowsAt := h.rowsAt.writeEndpoints group.structureId group.side group.keepFirst group.ports
  have hothers : ∀ other port, other ≠ group.structureId →
      (r.writeEndpoints group.structureId group.side group.keepFirst group.ports).rows.find?
        (other, port) = r.rows.find? (other, port) := fun other port hne =>
    find?_writeEndpoints_of_ne r group.side group.keepFirst fun hmem => hne hmem.1
  generalize r.writeEndpoints group.structureId group.side group.keepFirst group.ports = written
    at heq hframe hrowsAt hothers
  subst heq
  refine h.removeGroup (fun spot => if some spot.port = group.span.first? then
    (r.endpoint group.structureId spot).fiber else none) ?_ ?_ ?_ hkey (fun k => ?_)
    fun other spot => ?_
  · exact hframe.trans ⟨rfl, rfl, rfl, rfl, le_rfl⟩
  · exact RowsAt.prune (r := { written with groups := r.groups.erase key }) hrowsAt _
  · refine rowsFilled_prune fun other port row hne hrow => ?_
    exact h.row_filled (by rwa [← hothers other port hne])
  · exact Table.find?_erase ..
  · rw [hendpoint]
    split
    next hcovers => rw [MergeGroup.keepFirst, hcovers.1]
    next => rfl

end Registry
end CrossConnect
