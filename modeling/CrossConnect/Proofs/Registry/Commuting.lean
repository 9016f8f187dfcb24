import CrossConnect.Proofs.Registry.Transition

/-!
Writes to different port sides commute. What an accepted call does is brought into the form of a
patch, computed from the registry it is made on; two calls whose port sides are apart leave each
other's patches as they are. Only the names that merges draw, and the identities of rows, depend on
the order, so the two ends agree up to a renaming of merge groups.
-/
namespace CrossConnect

theorem exists_map_eq_ok {α β : Type} {x : Except Failure α} {f : α → β} :
    (∃ b, f <$> x = .ok b) ↔ ∃ a, x = .ok a := by
  simp only [map_eq_ok]
  exact ⟨fun ⟨_, a, ha, _⟩ => ⟨a, ha⟩, fun ⟨a, ha⟩ => ⟨f a, a, ha, rfl⟩⟩

/-! ### Other names for merge groups -/

def Endpoint.rename (ρ : Equiv.Perm MergeGroupId) (e : Endpoint) : Endpoint :=
  { e with group := e.group.map ρ }

def MergeGroup.rename (ρ : Equiv.Perm MergeGroupId) (group : MergeGroup) : MergeGroup :=
  { group with id := ρ group.id }

/-- The second row records what the first one does, under the new names. Its identity may differ. -/
structure Splice.Renamed (ρ : Equiv.Perm MergeGroupId) (row row' : Splice) : Prop where
  structureId : row'.structureId = row.structureId
  port : row'.port = row.port
  endpoint : ∀ side, row'.endpoint side = (row.endpoint side).rename ρ

/-- The second registry has the rows and the merge groups of the first, under the new names. -/
structure Registry.Renamed (ρ : Equiv.Perm MergeGroupId) (r r' : Registry) : Prop where
  rows : ∀ place, Option.Rel (Splice.Renamed ρ) (r.rows.find? place) (r'.rows.find? place)
  groups : ∀ key, r'.groups.find? (ρ key) = (r.groups.find? key).map (·.rename ρ)

@[simp] theorem Endpoint.isVacant_rename (ρ : Equiv.Perm MergeGroupId) (e : Endpoint) :
    (e.rename ρ).isVacant = e.isVacant := by
  simp [Endpoint.isVacant, Endpoint.rename]

/-- Two pairs of names, as long as they do not clash, are exchanged by one renaming; a pair that is
not `used` need not be. -/
theorem exists_renaming {used used' : Bool} {c c' d d' : MergeGroupId}
    (hfirst : used = true → used' = true → c ≠ d) (hsecond : used = true → used' = true → c' ≠ d') :
    ∃ ρ : Equiv.Perm MergeGroupId, (used = true → ρ c = c') ∧ (used' = true → ρ d = d') ∧
      ∀ key, (used = true → key ≠ c ∧ key ≠ c') → (used' = true → key ≠ d ∧ key ≠ d') →
        ρ key = key := by
  cases used with
  | false =>
    cases used' with
    | false => exact ⟨1, by simp⟩
    | true =>
      refine ⟨Equiv.swap d d', by simp, fun _ => Equiv.swap_apply_left d d', fun key _ hkey => ?_⟩
      exact Equiv.swap_apply_of_ne_of_ne (hkey rfl).1 (hkey rfl).2
  | true =>
    cases used' with
    | false =>
      refine ⟨Equiv.swap c c', fun _ => Equiv.swap_apply_left c c', by simp, fun key hkey _ => ?_⟩
      exact Equiv.swap_apply_of_ne_of_ne (hkey rfl).1 (hkey rfl).2
    | true =>
      -- The first swap may move `d`, so the second one takes it from where it is then.
      have hleft : Equiv.swap c c' c = c' := Equiv.swap_apply_left c c'
      have hkept : ∀ key, key ≠ c → key ≠ c' → Equiv.swap c c' key = key := fun key =>
        Equiv.swap_apply_of_ne_of_ne
      generalize Equiv.swap c c' = σ at hleft hkept
      have hmoved : σ d ≠ c' := fun heq =>
        hfirst rfl rfl (σ.injective (hleft.trans heq.symm))
      refine ⟨Equiv.swap (σ d) d' * σ, fun _ => ?_, fun _ => ?_, fun key hc hd => ?_⟩
      · rw [Equiv.Perm.mul_apply, hleft]
        exact Equiv.swap_apply_of_ne_of_ne hmoved.symm (hsecond rfl rfl)
      · rw [Equiv.Perm.mul_apply, Equiv.swap_apply_left]
      · have hsame := hkept key (hc rfl).1 (hc rfl).2
        have hother : key ≠ σ d := fun heq => (hd rfl).1 (σ.injective (hsame.trans heq))
        rw [Equiv.Perm.mul_apply, hsame]
        exact Equiv.swap_apply_of_ne_of_ne hother (hd rfl).2

namespace Registry

variable {r r' : Registry} {ρ : Equiv.Perm MergeGroupId} {limits : Limits}

def Keeps (r : Registry) (ρ : Equiv.Perm MergeGroupId) : Prop :=
  ∀ key, r.groups.contains key = true → ρ key = key

theorem Keeps.key (h : r.Keeps ρ) {key : MergeGroupId} {group : MergeGroup}
    (hkey : r.groups.find? key = some group) : ρ key = key :=
  h key (by rw [Table.contains, hkey]; rfl)

theorem Keeps.endpoint (h : r.Keeps ρ) (hr : r.WellFormed limits) (id : StructureId)
    (spot : PortSide) : (r.endpoint id spot).rename ρ = r.endpoint id spot := by
  have hgroup : (r.endpoint id spot).group.map ρ = (r.endpoint id spot).group := by
    cases hkey : (r.endpoint id spot).group with
    | none => rfl
    | some key =>
      obtain ⟨group, hgroup, -⟩ := hr.group_iff.1 hkey
      rw [Option.map_some, h.key hgroup]
  rw [Endpoint.rename, hgroup]

theorem Keeps.group (h : r.Keeps ρ) (hr : r.WellFormed limits) (key : MergeGroupId) :
    r.groups.find? (ρ key) = (r.groups.find? key).map (·.rename ρ) := by
  cases hkey : r.groups.find? key with
  | some group =>
    rw [h.key hkey, hkey, Option.map_some, MergeGroup.rename, hr.group_id hkey, h.key hkey,
      ← hr.group_id hkey]
  | none =>
    cases hother : r.groups.find? (ρ key) with
    | none => rfl
    | some group =>
      rw [ρ.injective (h.key hother), hkey] at hother
      cases hother

theorem Renamed.of_endpoint (hr : r.WellFormed limits) (hr' : r'.WellFormed limits)
    (hendpoint : ∀ id spot, r'.endpoint id spot = (r.endpoint id spot).rename ρ)
    (hgroups : ∀ key, r'.groups.find? (ρ key) = (r.groups.find? key).map (·.rename ρ)) :
    r.Renamed ρ r' := by
  refine ⟨fun ⟨id, port⟩ => ?_, hgroups⟩
  have hiff : (r'.rows.find? (id, port)).isSome = true ↔
      (r.rows.find? (id, port)).isSome = true := by
    rw [hr'.row_iff, hr.row_iff]
    simp only [hendpoint, Endpoint.isVacant_rename]
  cases hrow : r.rows.find? (id, port) with
  | none =>
    rw [hrow] at hiff
    rw [Option.not_isSome_iff_eq_none.1 fun hsome => nomatch hiff.1 hsome]
    exact .none
  | some row =>
    obtain ⟨row', hrow'⟩ := Option.isSome_iff_exists.1 (hiff.2 (by rw [hrow]; rfl))
    rw [hrow']
    obtain ⟨hid, hport, -⟩ := hr.row_at hrow
    obtain ⟨hid', hport', -⟩ := hr'.row_at hrow'
    refine .some ⟨hid'.trans hid.symm, hport'.trans hport.symm, fun side => ?_⟩
    have hside : r.endpoint id ⟨port, side⟩ = row.endpoint side := endpoint_of_row hrow
    have hside' : r'.endpoint id ⟨port, side⟩ = row'.endpoint side := endpoint_of_row hrow'
    rw [← hside, ← hside', hendpoint]

end Registry

/-! ### Patches -/

def spotsOn (id : StructureId) (side : Side) (ports : List PortNumber) :
    List (StructureId × PortSide) :=
  ports.map fun port => (id, ⟨port, side⟩)

theorem mem_spotsOn {id other : StructureId} {side : Side} {ports : List PortNumber}
    {spot : PortSide} :
    (other, spot) ∈ spotsOn id side ports ↔ other = id ∧ spot.side = side ∧ spot.port ∈ ports := by
  obtain ⟨port, side'⟩ := spot
  simp only [spotsOn, List.mem_map, Prod.mk.injEq, PortSide.mk.injEq]
  constructor
  · rintro ⟨port, hport, rfl, rfl, rfl⟩
    exact ⟨rfl, rfl, hport⟩
  · rintro ⟨rfl, rfl, hport⟩
    exact ⟨port, hport, rfl, rfl, rfl⟩

def MergeGroup.spots (group : MergeGroup) : List (StructureId × PortSide) :=
  spotsOn group.structureId group.side group.ports

theorem MergeGroup.mem_spots {group : MergeGroup} {id : StructureId} {spot : PortSide} :
    (id, spot) ∈ group.spots ↔ group.Covers id spot := by
  rw [spots, mem_spotsOn, Covers, eq_comm, eq_comm (a := group.side)]

def Call.targets (r : Registry) : Call → List (StructureId × PortSide)
  | .portsOf _ | .rowsOf _ | .fibersOf _ => []
  | .place p => spotsOn p.structureId p.spot.side (r.fanOut p.structureId p.spot)
  | .clear id spot => spotsOn id spot.side (r.fanOut id spot)
  | .merge id ports side => spotsOn id side ports
  | .unmerge key _ | .upload key _ _ =>
    match r.groups.find? key with
    | some group => group.spots
    | none => []

/-- What a call writes: what becomes of some port sides, and of the record of one merge group. -/
structure Patch where
  spots : List (StructureId × PortSide) := []
  change : PortNumber → Endpoint → Endpoint := fun _ e => e
  record : Option (MergeGroupId × Option MergeGroup) := none

def Call.patch (r : Registry) (fresh : MergeGroupId) : Call → Patch
  | .portsOf _ | .rowsOf _ | .fibersOf _ => {}
  | .place p =>
    { spots := spotsOn p.structureId p.spot.side (r.fanOut p.structureId p.spot)
      change := fun _ e => { e with fiber := (r.terminate p.fiber).toOption } }
  | .clear id spot =>
    { spots := spotsOn id spot.side (r.fanOut id spot)
      change := fun _ e => { e with fiber := none }
      record := (r.groupAt id spot).map fun group => (group.id, some { group with fibers := [] }) }
  | .merge id ports side =>
    let group : MergeGroup :=
      { id := fresh, structureId := id, side, ports := sortNumbers ports, fibers := [] }
    { spots := spotsOn id side ports
      change := fun _ _ => ⟨r.firstFiber id side (sortNumbers ports), some fresh, some group.span⟩
      record := some (fresh, some group) }
  | .unmerge key _ =>
    match r.groups.find? key with
    | some group => { spots := group.spots, change := group.keepFirst, record := some (key, none) }
    | none => {}
  | .upload key _ fibers =>
    match r.groups.find? key with
    | some group =>
      let shown := (fibers.mapM r.terminate).toOption.getD []
      { spots := group.spots
        change := fun _ e => { e with fiber := shown.head? }
        record := some (key, some { group with fibers := shown }) }
    | none => {}

def Call.names : Call → Bool
  | .merge _ _ _ => true
  | _ => false

def Patch.group (p : Patch) (key : MergeGroupId) (old : Option MergeGroup) : Option MergeGroup :=
  match p.record with
  | some (name, group) => if key = name then group else old
  | none => old

structure Patch.Makes (p : Patch) (r r' : Registry) : Prop where
  endpoint : ∀ id spot, r'.endpoint id spot =
    if (id, spot) ∈ p.spots then p.change spot.port (r.endpoint id spot) else r.endpoint id spot
  group : ∀ key, r'.groups.find? key = p.group key (r.groups.find? key)

structure Patch.Renamed (ρ : Equiv.Perm MergeGroupId) (p p' : Patch) : Prop where
  spots : p'.spots = p.spots
  change : ∀ port e, p'.change port (e.rename ρ) = (p.change port e).rename ρ
  record : p'.record = p.record.map fun record => (ρ record.1, record.2.map (·.rename ρ))

namespace Registry

variable {r r' : Registry} {ρ : Equiv.Perm MergeGroupId} {limits : Limits} {fresh : MergeGroupId}
  {id other : StructureId} {spot spot' : PortSide} {side : Side} {ports : List PortNumber}
  {key : MergeGroupId} {group : MergeGroup}

theorem targets_eq_spots (r : Registry) (fresh : MergeGroupId) (call : Call) :
    (call.patch r fresh).spots = call.targets r := by
  cases call with
  | unmerge key _ | upload key _ _ =>
    simp only [Call.patch, Call.targets]
    cases r.groups.find? key <;> rfl
  | _ => rfl

/-! ### The patch of a call -/

theorem FiberChange.makes {fiber : Option Termination}
    {record : Option (MergeGroupId × Option MergeGroup)}
    (h : FiberChange r r' id side ports fiber)
    (hgroup : ∀ key, r'.groups.find? key =
      ({ record } : Patch).group key (r.groups.find? key)) :
    Patch.Makes ⟨spotsOn id side ports, fun _ e => { e with fiber }, record⟩ r r' where
  endpoint other spot := by
    rw [h.endpoint]
    simp only [mem_spotsOn]
  group := hgroup

namespace WellFormed

variable (h : r.WellFormed limits)

include h

theorem makes_place {p : Placement} {row : Splice} (hplace : r.place p = .ok (row, r')) :
    ((Call.place p).patch r fresh).Makes r r' := by
  obtain ⟨-, -, fiber, hfiber, rfl⟩ := h.place_eq_ok hplace
  have hnodup : (r.fanOut p.structureId p.spot).Nodup := h.nodup_fanOut
  have hwritten := fiberChange_writeEndpoints r p.structureId p.spot.side (some fiber) hnodup
  simp only [Call.patch, hfiber]
  exact hwritten.makes fun key => by
    rw [groups_writeEndpoints]
    rfl

theorem makes_clear {outcome : ClearOutcome} (hclear : r.clear id spot = .ok (outcome, r')) :
    ((Call.clear id spot).patch r fresh).Makes r r' := by
  have hchange := h.clear_fiberChange hclear
  obtain ⟨-, rfl⟩ := clear_eq_ok hclear
  refine hchange.makes fun key => (h.find?_withoutUpload id spot key).trans ?_
  simp only [Patch.group]
  cases hat : r.groupAt id spot with
  | none =>
    cases hkey : r.groups.find? key with
    | none => rfl
    | some group => simp [groupAt_eq_none hat hkey]
  | some found =>
    obtain ⟨name, hname, hcovers⟩ := groupAt_eq_some hat
    have hid : found.id = name := h.group_id hname
    simp only [Option.map_some]
    by_cases hsame : key = name
    · simp [hsame, hname, hcovers, hid]
    · rw [hid, if_neg hsame]
      cases hkey : r.groups.find? key with
      | none => rfl
      | some group =>
        have hapart : ¬group.Covers id spot := fun hcovers' =>
          hsame (h.key_unique hname hkey hcovers hcovers').1
        simp [hapart]

theorem makes_unmerge (hunmerge : r.unmerge key ports = .ok r') :
    ((Call.unmerge key ports).patch r fresh).Makes r r' := by
  obtain ⟨group, hkey, -, heq⟩ := unmerge_eq_ok hunmerge
  simp only [Call.patch, hkey]
  refine ⟨fun other spot => ?_, fun k => ?_⟩
  · rw [h.endpoint_unmerge hkey hunmerge]
    simp only [MergeGroup.mem_spots]
  · rw [heq]
    exact Table.find?_erase ..

theorem makes_upload {fibers : List FiberRef} (hupload : r.upload limits key side fibers = .ok r') :
    ((Call.upload key side fibers).patch r fresh).Makes r r' := by
  obtain ⟨group, first, shown, hkey, rfl, hshown, hchange, rfl⟩ := h.upload_eq_ok hupload
  simp only [Call.patch, hkey, hshown]
  refine hchange.makes fun k => (Table.find?_modify ..).trans ?_
  simp only [Patch.group]
  by_cases hsame : k = key
  · rw [if_pos hsame, if_pos hsame, hsame, hkey]
    rfl
  · rw [if_neg hsame, if_neg hsame]

end WellFormed

theorem makes_merge (hmerge : r.merge limits id ports side = .ok (key, r')) :
    ((Call.merge id ports side).patch r key).Makes r r' := by
  refine ⟨fun other spot => ?_, find?_groups_merge hmerge⟩
  rw [endpoint_merge hmerge]
  simp only [Call.patch, mem_spotsOn]
  rfl

theorem WellFormed.makes (h : r.WellFormed limits) {call : Call} {a : call.Answer}
    (hperform : r.perform limits call = .ok (a, r')) :
    (call.patch r ⟨r.ids.next.1⟩).Makes r r' := by
  cases call with
  | portsOf _ | rowsOf _ | fibersOf _ =>
    obtain rfl := perform_read rfl hperform
    exact ⟨fun _ _ => rfl, fun _ => rfl⟩
  | place p => exact h.makes_place hperform
  | clear id spot => exact h.makes_clear hperform
  | merge id ports side =>
    obtain ⟨⟨key, _⟩, hmerge, heq⟩ := map_eq_ok.1 hperform
    obtain rfl := (Prod.mk.inj heq).2
    obtain ⟨-, -, -, rfl, -⟩ := merge_eq_ok hmerge
    exact makes_merge hmerge
  | unmerge key ports =>
    obtain ⟨_, hunmerge, heq⟩ := map_eq_ok.1 hperform
    obtain rfl := (Prod.mk.inj heq).2
    exact h.makes_unmerge hunmerge
  | upload key side fibers =>
    obtain ⟨_, hupload, heq⟩ := map_eq_ok.1 hperform
    obtain rfl := (Prod.mk.inj heq).2
    exact h.makes_upload hupload

/-! ### Port sides that another call leaves alone -/

/-- The second registry has what the first has on the port sides, and what is mounted and cabled. -/
structure AgreesOn (r r' : Registry) (spots : List (StructureId × PortSide)) : Prop where
  frame : Frame r r'
  endpoint : ∀ {id spot}, (id, spot) ∈ spots → r'.endpoint id spot = r.endpoint id spot
  groupAt : ∀ {id spot}, (id, spot) ∈ spots → r'.groupAt id spot = r.groupAt id spot

theorem WellFormed.groupAt_eq (h : r.WellFormed limits) (id : StructureId) (spot : PortSide) :
    r.groupAt id spot = (r.endpoint id spot).group.bind r.groups.find? := by
  rw [h.group_endpoint]
  cases hat : r.groupAt id spot with
  | none => rfl
  | some group =>
    obtain ⟨key, hkey, -⟩ := groupAt_eq_some hat
    rw [Option.map_some, Option.bind_some, h.group_id hkey, hkey]

theorem WellFormed.mem_targets_of_recorded (h : r.WellFormed limits) {call : Call}
    (hfresh : call.names = true → r.groups.find? fresh = none) {record : Option MergeGroup}
    (hrecord : (call.patch r fresh).record = some (key, record))
    (hkey : r.groups.find? key = some group) (hcovers : group.Covers id spot) :
    (id, spot) ∈ call.targets r := by
  cases call with
  | portsOf _ | rowsOf _ | fibersOf _ | place _ => cases hrecord
  | clear other at' =>
    obtain ⟨found, hfound, heq⟩ := Option.map_eq_some_iff.1 hrecord
    obtain ⟨name, hname, hhere⟩ := groupAt_eq_some hfound
    obtain rfl : name = key := (h.group_id hname).symm.trans (Prod.mk.inj heq).1
    obtain rfl := Option.some.inj (hname.symm.trans hkey)
    simp only [Call.targets, fanOut, hfound]
    rw [← hhere.1, ← hhere.2.1]
    exact MergeGroup.mem_spots.2 hcovers
  | merge _ _ _ =>
    obtain ⟨rfl, -⟩ := Prod.mk.inj (Option.some.inj hrecord)
    rw [hfresh rfl] at hkey
    cases hkey
  | unmerge name _ | upload name _ _ =>
    simp only [Call.patch] at hrecord
    cases hname : r.groups.find? name with
    | none =>
      rw [hname] at hrecord
      cases hrecord
    | some found =>
      rw [hname] at hrecord
      obtain ⟨rfl, -⟩ := Prod.mk.inj (Option.some.inj hrecord)
      obtain rfl := Option.some.inj (hname.symm.trans hkey)
      simp only [Call.targets, hname]
      exact MergeGroup.mem_spots.2 hcovers

theorem WellFormed.agreesOn (h : r.WellFormed limits) (h' : r'.WellFormed limits) {call : Call}
    (hframe : Frame r r') (hmakes : (call.patch r fresh).Makes r r')
    (hfresh : call.names = true → r.groups.find? fresh = none)
    {spots : List (StructureId × PortSide)} (hapart : spots.Disjoint (call.targets r)) :
    AgreesOn r r' spots := by
  have hendpoint : ∀ {id spot}, (id, spot) ∈ spots → r'.endpoint id spot = r.endpoint id spot :=
    fun hmem => by
      rw [hmakes.endpoint, if_neg]
      rw [targets_eq_spots]
      exact hapart hmem
  refine ⟨hframe, hendpoint, fun {id spot} hmem => ?_⟩
  rw [h.groupAt_eq, h'.groupAt_eq, hendpoint hmem]
  cases hgroup : (r.endpoint id spot).group with
  | none => rfl
  | some key =>
    obtain ⟨group, hkey, hcovers⟩ := h.group_iff.1 hgroup
    have hkept : ∀ record, (call.patch r fresh).record ≠ some (key, record) := fun record hrecord =>
      hapart hmem (h.mem_targets_of_recorded hfresh hrecord hkey hcovers)
    rw [Option.bind_some, Option.bind_some, hmakes.group, Patch.group]
    split
    next name record hrecord =>
      rw [if_neg]
      rintro rfl
      exact hkept record hrecord
    next => rfl

theorem requireUngrouped_ok
    (h : ∀ port ∈ ports, r.HasPort id ⟨port, side⟩ ∧ r.groupAt id ⟨port, side⟩ = none) :
    r.requireUngrouped id side ports = .ok () := by
  induction ports with
  | nil => rfl
  | cons port ports ih =>
    obtain ⟨hport, hgroup⟩ := h port List.mem_cons_self
    simp only [requireUngrouped, bind_eq_ok]
    refine ⟨(), requirePort_eq_ok.2 hport, ?_⟩
    rw [hgroup]
    exact ih fun port hmem => h port (List.mem_cons_of_mem _ hmem)

theorem firstFiber_congr
    (h : ∀ port ∈ ports, r'.endpoint id ⟨port, side⟩ = r.endpoint id ⟨port, side⟩) :
    r'.firstFiber id side ports = r.firstFiber id side ports := by
  rw [firstFiber_eq, firstFiber_eq]
  induction ports with
  | nil => rfl
  | cons port ports ih =>
    rw [List.findSome?_cons, List.findSome?_cons, h port List.mem_cons_self,
      ih fun port hmem => h port (List.mem_cons_of_mem _ hmem)]

namespace AgreesOn

variable {call : Call} {a : call.Answer} {r₁ : Registry} {p : Placement} {fibers : List FiberRef}

theorem terminate {spots : List (StructureId × PortSide)} (h : AgreesOn r r' spots) :
    r'.terminate = r.terminate := by
  funext fiber
  simp only [Registry.terminate, cable?, h.frame.cables]

theorem fanOut {spots : List (StructureId × PortSide)} (h : AgreesOn r r' spots)
    (hmem : (id, spot) ∈ spots) : r'.fanOut id spot = r.fanOut id spot := by
  simp only [Registry.fanOut, h.groupAt hmem]

theorem mem_spotsOn_fanOut (r : Registry) (id : StructureId) (spot : PortSide) :
    (id, spot) ∈ spotsOn id spot.side (r.fanOut id spot) :=
  mem_spotsOn.2 ⟨rfl, rfl, mem_fanOut_self ..⟩

theorem firstFiber (h : AgreesOn r r' (spotsOn id side ports)) :
    r'.firstFiber id side (sortNumbers ports) = r.firstFiber id side (sortNumbers ports) :=
  firstFiber_congr fun _ hport => h.endpoint (mem_spotsOn.2 ⟨rfl, rfl, (mem_sortBy _).1 hport⟩)

theorem find?_groups (h : AgreesOn r r' group.spots) (hr : r.WellFormed limits)
    (hr' : r'.WellFormed limits) (hkey : r.groups.find? key = some group) :
    r'.groups.find? key = some group := by
  obtain ⟨spot, hcovers⟩ := hr.exists_covers hkey
  have hgroup := hr.group_iff.2 ⟨group, hkey, hcovers⟩
  have hat := h.groupAt (MergeGroup.mem_spots.2 hcovers)
  rw [hr.groupAt_eq, hr'.groupAt_eq, h.endpoint (MergeGroup.mem_spots.2 hcovers), hgroup] at hat
  exact hat.trans hkey

theorem requireUngrouped (h : AgreesOn r r' (spotsOn id side ports))
    (hungrouped : r.requireUngrouped id side (sortNumbers ports) = .ok ()) :
    r'.requireUngrouped id side (sortNumbers ports) = .ok () := by
  refine requireUngrouped_ok fun port hport => ?_
  obtain ⟨hhas, hgroup⟩ := requireUngrouped_eq_ok hungrouped hport
  rw [h.groupAt (mem_spotsOn.2 ⟨rfl, rfl, (mem_sortBy _).1 hport⟩)]
  exact ⟨h.frame.hasPort_iff.2 hhas, hgroup⟩

theorem accepted (h : AgreesOn r r' (call.targets r)) (hr : r.WellFormed limits)
    (hr' : r'.WellFormed limits) (hperform : r.perform limits call = .ok (a, r₁)) :
    ∃ answer, r'.perform limits call = .ok answer := by
  cases call with
  | portsOf id =>
    obtain ⟨_, hread, -⟩ := map_eq_ok.1 hperform
    have hsame : r'.portsOf id = r.portsOf id := by
      simp only [portsOf, componentType?, h.frame.componentTypes]
    exact exists_map_eq_ok.2 ⟨_, hsame.trans hread⟩
  | rowsOf id =>
    obtain ⟨_, hread, -⟩ := map_eq_ok.1 hperform
    obtain ⟨record, hrecord, -⟩ := map_eq_ok.1 hread
    have hsame : r'.structure? id = r.structure? id := by
      simp only [structure?, h.frame.structures]
    exact exists_map_eq_ok.2 (exists_map_eq_ok.2 ⟨record, hsame.trans hrecord⟩)
  | fibersOf id =>
    obtain ⟨_, hread, -⟩ := map_eq_ok.1 hperform
    have hsame : r'.fibersOf id = r.fibersOf id := by
      simp only [fibersOf, cable?, h.frame.cables]
    exact exists_map_eq_ok.2 ⟨_, hsame.trans hread⟩
  | place p =>
    obtain ⟨hport, fiber, hfiber, -⟩ := place_eq_ok hperform
    exact exists_place (h.frame.hasPort_iff.2 hport) (h.terminate ▸ hfiber)
  | clear id spot =>
    obtain ⟨⟨record, hrecord⟩, -⟩ := clear_eq_ok hperform
    exact exists_clear spot (h.frame.structures ▸ hrecord)
  | merge id ports side =>
    obtain ⟨_, hmerge, -⟩ := map_eq_ok.1 hperform
    obtain ⟨sorted, hsorted, hungrouped, -⟩ := merge_eq_ok hmerge
    obtain ⟨rfl, -⟩ := PortRun.validate_eq_ok hsorted
    refine exists_map_eq_ok.2 ?_
    simp only [Registry.merge, bind_eq_ok]
    exact ⟨_, _, hsorted, (), requireUngrouped h hungrouped, rfl⟩
  | unmerge key ports =>
    obtain ⟨_, hunmerge, -⟩ := map_eq_ok.1 hperform
    obtain ⟨group, hkey, hports, -⟩ := unmerge_eq_ok hunmerge
    simp only [Call.targets, hkey] at h
    exact exists_map_eq_ok.2 (exists_unmerge (h.find?_groups hr hr' hkey) hports)
  | upload key side fibers =>
    obtain ⟨_, hupload, -⟩ := map_eq_ok.1 hperform
    obtain ⟨group, hkey, rfl, hne, hlength, hlimit, shown, hshown, -⟩ := upload_eq_ok hupload
    simp only [Call.targets, hkey] at h
    exact exists_map_eq_ok.2 (exists_upload (h.find?_groups hr hr' hkey) hne hlength hlimit
      (h.terminate ▸ hshown))

theorem patch (h : AgreesOn r r' (call.targets r)) (hr : r.WellFormed limits)
    (hr' : r'.WellFormed limits) (hperform : r.perform limits call = .ok (a, r₁))
    (fresh : MergeGroupId) : call.patch r' fresh = call.patch r fresh := by
  cases call with
  | portsOf _ | rowsOf _ | fibersOf _ => rfl
  | place p =>
    simp only [Call.patch, h.fanOut (mem_spotsOn_fanOut ..), h.terminate]
  | clear id spot =>
    simp only [Call.patch, h.fanOut (mem_spotsOn_fanOut ..), h.groupAt (mem_spotsOn_fanOut ..)]
  | merge id ports side =>
    simp only [Call.patch, firstFiber h]
  | unmerge key ports =>
    obtain ⟨_, hunmerge, -⟩ := map_eq_ok.1 hperform
    obtain ⟨group, hkey, -⟩ := unmerge_eq_ok hunmerge
    simp only [Call.targets, hkey] at h
    simp only [Call.patch, hkey, h.find?_groups hr hr' hkey]
  | upload key side fibers =>
    obtain ⟨_, hupload, -⟩ := map_eq_ok.1 hperform
    obtain ⟨group, hkey, -⟩ := upload_eq_ok hupload
    simp only [Call.targets, hkey] at h
    simp only [Call.patch, hkey, h.find?_groups hr hr' hkey, h.terminate]

end AgreesOn

/-! ### Patches under new names -/

theorem patch_eq_of_not_names {call : Call} (h : call.names = false) (fresh other : MergeGroupId) :
    call.patch r fresh = call.patch r other := by
  cases call with
  | merge _ _ _ => cases h
  | _ => rfl

theorem WellFormed.patch_renamed (h : r.WellFormed limits) (hρ : r.Keeps ρ) (call : Call)
    (fresh : MergeGroupId) : (call.patch r fresh).Renamed ρ (call.patch r (ρ fresh)) := by
  refine ⟨?_, fun port e => ?_, ?_⟩
  · rw [targets_eq_spots, targets_eq_spots]
  · cases call with
    | unmerge key _ | upload key _ _ =>
      simp only [Call.patch]
      cases r.groups.find? key <;> rfl
    | _ => rfl
  · cases call with
    | portsOf _ | rowsOf _ | fibersOf _ | place _ | merge _ _ _ => rfl
    | clear id spot =>
      simp only [Call.patch]
      cases hat : r.groupAt id spot with
      | none => rfl
      | some group =>
        obtain ⟨key, hkey, -⟩ := groupAt_eq_some hat
        simp [MergeGroup.rename, h.group_id hkey, hρ.key hkey]
    | unmerge key _ | upload key _ _ =>
      simp only [Call.patch]
      cases hkey : r.groups.find? key with
      | none => rfl
      | some group => simp [MergeGroup.rename, h.group_id hkey, hρ.key hkey]

theorem WellFormed.patch_renamed_of (h : r.WellFormed limits) (hρ : r.Keeps ρ) {call : Call}
    {fresh other : MergeGroupId} (hother : call.names = true → ρ fresh = other) :
    (call.patch r fresh).Renamed ρ (call.patch r other) := by
  have hrenamed := h.patch_renamed hρ call fresh
  cases hnames : call.names with
  | true => rwa [hother hnames] at hrenamed
  | false => rwa [patch_eq_of_not_names hnames (ρ fresh) other] at hrenamed

end Registry

namespace Patch

variable {p p' q q' : Patch} {ρ : Equiv.Perm MergeGroupId}

theorem Renamed.group (h : p.Renamed ρ p') (key : MergeGroupId) (old : Option MergeGroup) :
    p'.group (ρ key) (old.map (·.rename ρ)) = (p.group key old).map (·.rename ρ) := by
  simp only [Patch.group, h.record]
  cases p.record with
  | none => rfl
  | some record =>
    simp only [Option.map_some, ρ.injective.eq_iff]
    split <;> rfl

theorem group_comm
    (hapart : ∀ record ∈ p.record, ∀ record' ∈ q.record, record.1 ≠ record'.1) (key : MergeGroupId)
    (old : Option MergeGroup) : p.group key (q.group key old) = q.group key (p.group key old) := by
  simp only [Patch.group]
  cases hp : p.record with
  | none => rfl
  | some record =>
    cases hq : q.record with
    | none => rfl
    | some record' =>
      by_cases hkey : key = record.1
      · have hne : key ≠ record'.1 := hkey ▸ hapart record hp record' hq
        simp [hkey, hkey ▸ hne]
      · simp [hkey]

theorem Makes.renamed {r r₁ r₂ r₁₂ r₂₁ : Registry} {limits : Limits} (hp : p.Makes r r₁)
    (hq : q.Makes r₁ r₁₂) (hq' : q'.Makes r r₂) (hp' : p'.Makes r₂ r₂₁) (hpρ : p.Renamed ρ p')
    (hqρ : q.Renamed ρ q') (hspots : p.spots.Disjoint q.spots)
    (hrecords : ∀ record ∈ p.record, ∀ record' ∈ q.record, record.1 ≠ record'.1)
    (hρ : r.Keeps ρ) (hr : r.WellFormed limits) (hr₁₂ : r₁₂.WellFormed limits)
    (hr₂₁ : r₂₁.WellFormed limits) : r₁₂.Renamed ρ r₂₁ := by
  refine .of_endpoint hr₁₂ hr₂₁ (fun id spot => ?_) fun key => ?_
  · rw [hp'.endpoint, hq'.endpoint, hq.endpoint, hp.endpoint, hpρ.spots, hqρ.spots]
    by_cases hleft : (id, spot) ∈ p.spots
    · have hright : (id, spot) ∉ q.spots := hspots hleft
      rw [if_pos hleft, if_neg hright, if_neg hright, if_pos hleft, ← hpρ.change,
        hρ.endpoint hr]
    · rw [if_neg hleft, if_neg hleft]
      split
      · rw [← hqρ.change, hρ.endpoint hr]
      · rw [hρ.endpoint hr]
  · rw [hp'.group, hq'.group, hq.group, hp.group, hρ.group hr, hqρ.group, hpρ.group,
      group_comm hrecords]

end Patch

namespace Registry

variable {r : Registry} {limits : Limits} {c d : Call} {a : c.Answer} {b : d.Answer}
  {r₁ r₂ r₁₂ r₂₁ : Registry}

theorem distinct_of_names (hnames : c.names = true) (hperform : r.perform limits c = .ok (a, r₁))
    (hids : r₁.ids.Distinct) : r.ids.next.2.Distinct := by
  cases c with
  | merge id ports side =>
    obtain ⟨⟨key, _⟩, hmerge, heq⟩ := map_eq_ok.1 hperform
    obtain rfl := (Prod.mk.inj heq).2
    exact (frame_merge hmerge).distinct hids
  | _ => cases hnames

theorem Sound.named_fresh (h : r.Sound limits) (hperform : r.perform limits c = .ok (a, r₁))
    (hids : r₁.ids.Distinct) (hnames : c.names = true) : r.groups.find? ⟨r.ids.next.1⟩ = none :=
  h.drawn.next_fresh (distinct_of_names hnames hperform hids)

theorem recorded_of_names {fresh : MergeGroupId} (h : (c.patch r fresh).Makes r r₁)
    (hnames : c.names = true) : r₁.groups.find? fresh ≠ none := by
  cases c with
  | merge id ports side =>
    rw [h.group]
    simp [Call.patch, Patch.group]
  | _ => cases hnames

theorem WellFormed.names_of_recorded (h : r.WellFormed limits) {fresh key : MergeGroupId}
    {record : Option MergeGroup}
    (hrecord : (c.patch r fresh).record = some (key, record)) (hkey : r.groups.find? key = none) :
    c.names = true ∧ key = fresh := by
  cases c with
  | portsOf _ | rowsOf _ | fibersOf _ | place _ => cases hrecord
  | clear id spot =>
    obtain ⟨found, hfound, heq⟩ := Option.map_eq_some_iff.1 hrecord
    obtain ⟨name, hname, -⟩ := groupAt_eq_some hfound
    obtain rfl : name = key := (h.group_id hname).symm.trans (Prod.mk.inj heq).1
    rw [hname] at hkey
    cases hkey
  | merge _ _ _ => exact ⟨rfl, (Prod.mk.inj (Option.some.inj hrecord)).1.symm⟩
  | unmerge name _ | upload name _ _ =>
    simp only [Call.patch] at hrecord
    cases hname : r.groups.find? name with
    | none =>
      rw [hname] at hrecord
      cases hrecord
    | some found =>
      rw [hname] at hrecord
      obtain ⟨rfl, -⟩ := Prod.mk.inj (Option.some.inj hrecord)
      rw [hname] at hkey
      cases hkey

theorem WellFormed.records_apart (h : r.WellFormed limits) {k l : MergeGroupId}
    (hc : c.names = true → r.groups.find? k = none) (hd : d.names = true → r.groups.find? l = none)
    (hne : c.names = true → d.names = true → k ≠ l)
    (hapart : (c.targets r).Disjoint (d.targets r)) :
    ∀ record ∈ (c.patch r k).record, ∀ record' ∈ (d.patch r l).record, record.1 ≠ record'.1 := by
  rintro ⟨key, record⟩ hrecord ⟨_, record'⟩ hrecord' rfl
  cases hkey : r.groups.find? key with
  | none =>
    obtain ⟨hnames, rfl⟩ := h.names_of_recorded hrecord hkey
    obtain ⟨hnames', rfl⟩ := h.names_of_recorded hrecord' hkey
    exact hne hnames hnames' rfl
  | some group =>
    obtain ⟨spot, hcovers⟩ := h.exists_covers hkey
    exact hapart (h.mem_targets_of_recorded hc hrecord hkey hcovers)
      (h.mem_targets_of_recorded hd hrecord' hkey hcovers)

theorem Sound.agreesOn (h : r.Sound limits) (hc : r.perform limits c = .ok (a, r₁))
    (hids : r₁.ids.Distinct) {spots : List (StructureId × PortSide)}
    (hapart : spots.Disjoint (c.targets r)) : AgreesOn r r₁ spots :=
  h.wellFormed.agreesOn (h.perform hc hids).wellFormed (frame_perform hc) (h.wellFormed.makes hc)
    (h.named_fresh hc hids) hapart

theorem Sound.renamed (h : r.Sound limits) {a' : c.Answer} {b' : d.Answer}
    (hc : r.perform limits c = .ok (a, r₁)) (hd : r.perform limits d = .ok (b, r₂))
    (hd' : r₁.perform limits d = .ok (b', r₁₂)) (hc' : r₂.perform limits c = .ok (a', r₂₁))
    (hapart : (c.targets r).Disjoint (d.targets r)) (hids : r₁₂.ids.Distinct)
    (hids' : r₂₁.ids.Distinct) : ∃ ρ, r.Keeps ρ ∧ r₁₂.Renamed ρ r₂₁ := by
  have hids₁ := (frame_perform hd').distinct hids
  have hids₂ := (frame_perform hc').distinct hids'
  have h₁ := h.perform hc hids₁
  have h₂ := h.perform hd hids₂
  have hp := h.wellFormed.makes hc
  have hq' := h.wellFormed.makes hd
  have hq := h₁.wellFormed.makes hd'
  have hp' := h₂.wellFormed.makes hc'
  rw [(h.agreesOn hc hids₁ hapart.symm).patch h.wellFormed h₁.wellFormed hd] at hq
  rw [(h.agreesOn hd hids₂ hapart).patch h.wellFormed h₂.wellFormed hc] at hp'
  -- The names that a merge draws first, and the ones it draws second, name nothing at the start.
  have hfreshc := h.named_fresh hc hids₁
  have hfreshd := h.named_fresh hd hids₂
  have hlaterc : c.names = true → r.groups.find? ⟨r₂.ids.next.1⟩ = none := fun hnames =>
    h.drawn.later_fresh (frame_perform hd) (distinct_of_names hnames hc' hids')
  have hlaterd : d.names = true → r.groups.find? ⟨r₁.ids.next.1⟩ = none := fun hnames =>
    h.drawn.later_fresh (frame_perform hc) (distinct_of_names hnames hd' hids)
  have hne : c.names = true → d.names = true →
      (⟨r.ids.next.1⟩ : MergeGroupId) ≠ ⟨r₁.ids.next.1⟩ := fun hc hd heq =>
    recorded_of_names hp hc (heq ▸ h₁.named_fresh hd' hids hd)
  have hne' : c.names = true → d.names = true →
      (⟨r₂.ids.next.1⟩ : MergeGroupId) ≠ ⟨r.ids.next.1⟩ := fun hc hd heq =>
    recorded_of_names hq' hd (heq ▸ h₂.named_fresh hc' hids' hc)
  obtain ⟨ρ, hρc, hρd, hρ⟩ := exists_renaming hne hne'
  have hkeeps : r.Keeps ρ := fun key hkey => by
    have hrecorded : ∀ {other : MergeGroupId}, r.groups.find? other = none → key ≠ other := by
      rintro _ hnone rfl
      rw [Table.contains, hnone] at hkey
      cases hkey
    exact hρ key (fun hnames => ⟨hrecorded (hfreshc hnames), hrecorded (hlaterc hnames)⟩)
      fun hnames => ⟨hrecorded (hlaterd hnames), hrecorded (hfreshd hnames)⟩
  refine ⟨ρ, hkeeps, hp.renamed hq hq' hp' (h.wellFormed.patch_renamed_of hkeeps hρc)
    (h.wellFormed.patch_renamed_of hkeeps hρd) ?_
    (h.wellFormed.records_apart hfreshc hlaterd hne hapart) hkeeps h.wellFormed
    (h₁.perform hd' hids).wellFormed (h₂.perform hc' hids').wellFormed⟩
  rwa [targets_eq_spots, targets_eq_spots]

end Registry

namespace Server

variable {s : Server} {c d : Call} {a : c.Answer} {b : d.Answer}

theorem failpointFor_answer (s : Server) (c d : Call) :
    (s.answer c).2.failpointFor d = s.failpointFor d := by
  have hsame : (s.answer c).2.failpoints = s.failpoints := by
    simp only [answer]
    split
    · rfl
    · split <;> rfl
  simp only [failpointFor, hsame]

theorem failpointFor_of_ok (h : (s.answer c).1 = .ok a) : s.failpointFor c = none := by
  simp only [answer] at h
  cases hkey : s.failpointFor c with
  | none => rfl
  | some key =>
    have hkey' : Server.failpointFor { s with log := s.log ++ [c] } c = some key := hkey
    rw [hkey'] at h
    cases h

theorem answer_of_perform {x : c.Answer × Registry} (hkey : s.failpointFor c = none)
    (h : s.registry.perform s.limits c = .ok x) : (s.answer c).1 = .ok x.1 := by
  rw [answer_ok hkey h]

theorem accepted_after (hs : s.Sound) (hc : (s.answer c).1 = .ok a) (hd : (s.answer d).1 = .ok b)
    (hapart : (c.targets s.registry).Disjoint (d.targets s.registry))
    (hids : (s.answer c).2.registry.ids.Distinct) :
    ∃ b', ((s.answer c).2.answer d).1 = .ok b' := by
  have hs' := hs.answer c hids
  have hlimits := (answer_cases s c).1
  simp only [Sound, hlimits] at hs hs'
  have hagrees := Registry.Sound.agreesOn hs (perform_of_ok hc) hids hapart.symm
  obtain ⟨x, hx⟩ := hagrees.accepted hs.wellFormed hs'.wellFormed (perform_of_ok hd)
  refine ⟨x.1, answer_of_perform ?_ (hlimits ▸ hx)⟩
  rw [failpointFor_answer, failpointFor_of_ok hd]

/-- Two calls that an authority accepts, on port sides that are apart, are accepted in either order,
and the rows and merge groups are the same at the end, up to the names of groups that were not there
before and the identities of rows, as long as no identifier is drawn twice. -/
theorem calls_commute (h : s.Reachable) (hc : (s.answer c).1 = .ok a) (hd : (s.answer d).1 = .ok b)
    (hapart : (c.targets s.registry).Disjoint (d.targets s.registry))
    (hids : ((s.answer c).2.answer d).2.registry.ids.Distinct)
    (hids' : ((s.answer d).2.answer c).2.registry.ids.Distinct) :
    (∃ b', ((s.answer c).2.answer d).1 = .ok b') ∧ (∃ a', ((s.answer d).2.answer c).1 = .ok a') ∧
      ∃ ρ, s.registry.Keeps ρ ∧
        ((s.answer c).2.answer d).2.registry.Renamed ρ ((s.answer d).2.answer c).2.registry := by
  have hidsc := (frame_answer _ d).distinct hids
  have hidsd := (frame_answer _ c).distinct hids'
  have hs := h.sound ((frame_answer s c).distinct hidsc)
  obtain ⟨b', hb⟩ := accepted_after hs hc hd hapart hidsc
  obtain ⟨a', ha⟩ := accepted_after hs hd hc hapart.symm hidsd
  have hperform := perform_of_ok hb
  have hperform' := perform_of_ok ha
  rw [(answer_cases s c).1] at hperform
  rw [(answer_cases s d).1] at hperform'
  exact ⟨⟨b', hb⟩, ⟨a', ha⟩, Registry.Sound.renamed hs (perform_of_ok hc)
    (perform_of_ok hd) hperform hperform' hapart hids hids'⟩

theorem calls_commute_across :
    let s := (ofPlan {} smallPlan (.numbered 0 0)).serveAll
      [.call (.place ⟨smallTray.id, ⟨1, .a⟩, (smallFiber 1).ref⟩)]
    let clear := Call.clear smallTray.id ⟨1, .a⟩
    let merge := Call.merge smallTray.id [2, 1] .b
    (∃ b, ((s.answer clear).2.answer merge).1 = .ok b) ∧
      (∃ a, ((s.answer merge).2.answer clear).1 = .ok a) ∧
      ∃ ρ, s.registry.Keeps ρ ∧
        ((s.answer clear).2.answer merge).2.registry.Renamed ρ
          ((s.answer merge).2.answer clear).2.registry :=
  calls_commute ⟨_, _, _, _, rfl⟩ (a := ⟨true⟩) (b := ()) (by decide +kernel) (by decide +kernel)
    (List.disjoint_left.2 (by decide +kernel)) (by decide +kernel) (by decide +kernel)

end Server
end CrossConnect
