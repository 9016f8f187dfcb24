import CrossConnect.Proofs.PortRun
import CrossConnect.Proofs.Registry.Endpoint

/-!
What each operation of the registry demands and does when it is accepted, one lemma for each.
-/
namespace CrossConnect

theorem Table.mem_values_iff {κ α : Type} [DecidableEq κ] {t : Table κ α} {value : α} :
    value ∈ t.values ↔ ∃ key, t.find? key = some value := by
  simp only [Table.values, List.mem_map, Prod.exists, exists_eq_right, Table.find?_eq_some_iff]

def MergeGroup.Covers (group : MergeGroup) (id : StructureId) (spot : PortSide) : Prop :=
  group.structureId = id ∧ group.side = spot.side ∧ spot.port ∈ group.ports

instance (group : MergeGroup) (id : StructureId) (spot : PortSide) :
    Decidable (group.Covers id spot) :=
  inferInstanceAs (Decidable (_ ∧ _ ∧ _))

/-- What is left of an endpoint when the group is dissolved: the fiber, on the first port only. -/
def MergeGroup.keepFirst (group : MergeGroup) (port : PortNumber) (e : Endpoint) : Endpoint :=
  { fiber := if some port = group.span.first? then e.fiber else none }

namespace Registry

variable {r r' : Registry} {id other : StructureId} {side : Side} {spot : PortSide}
  {port : PortNumber} {ports : List PortNumber} {row : Splice} {group : MergeGroup}
  {limits : Limits}

def HasPort (r : Registry) (id : StructureId) (spot : PortSide) : Prop :=
  ∃ record typeId component, r.structures.find? id = some record ∧
    record.componentType = some typeId ∧ r.componentTypes.find? typeId = some component ∧
    ∃ port ∈ component.ports, port.number = spot.port ∧ port.side = spot.side

theorem Frame.hasPort_iff (h : Frame r r') : r'.HasPort id spot ↔ r.HasPort id spot := by
  simp only [HasPort, h.structures, h.componentTypes]

theorem structure?_eq_ok {record : Structure} :
    r.structure? id = .ok record ↔ r.structures.find? id = some record := by
  simp only [structure?]
  split <;> simp_all

theorem group?_eq_ok {groupId : MergeGroupId} :
    r.group? groupId = .ok group ↔ r.groups.find? groupId = some group := by
  simp only [group?]
  split <;> simp_all

theorem requirePort_eq_ok : r.requirePort id spot = .ok () ↔ r.HasPort id spot := by
  simp only [requirePort, HasPort]
  cases hrecord : r.structures.find? id with
  | none => simp [structure?, hrecord, bind, Except.bind]
  | some record =>
    cases htype : record.componentType with
    | none => simp [structure?, hrecord, htype, bind, Except.bind]
    | some typeId =>
      cases hcomponent : r.componentTypes.find? typeId with
      | none => simp [structure?, componentType?, hrecord, htype, hcomponent, bind, Except.bind]
      | some component =>
        simp [structure?, componentType?, hrecord, htype, hcomponent, bind, Except.bind]

theorem HasPort.known (h : r.HasPort id spot) : ∃ record, r.structures.find? id = some record := by
  obtain ⟨record, -, -, hrecord, -⟩ := h
  exact ⟨record, hrecord⟩

/-! ### The group of a port side -/

theorem groupAt_eq_some (h : r.groupAt id spot = some group) :
    ∃ key, r.groups.find? key = some group ∧ group.Covers id spot := by
  have hcovers := List.find?_some h
  exact (Table.mem_values_iff.1 (List.mem_of_find?_eq_some h)).imp fun key hkey =>
    ⟨hkey, of_decide_eq_true hcovers⟩

theorem groupAt_eq_none (h : r.groupAt id spot = none) {key : MergeGroupId}
    (hkey : r.groups.find? key = some group) : ¬group.Covers id spot := fun hcovers => by
  have hno := List.find?_eq_none.1 h group (Table.mem_values_iff.2 ⟨key, hkey⟩)
  exact hno (decide_eq_true hcovers)

theorem mem_fanOut_self (r : Registry) (id : StructureId) (spot : PortSide) :
    spot.port ∈ r.fanOut id spot := by
  simp only [fanOut]
  split
  next group h =>
    obtain ⟨key, -, hcovers⟩ := groupAt_eq_some h
    exact hcovers.2.2
  next => exact List.mem_singleton.2 rfl

/-! ### Accepted operations -/

theorem place_eq_ok {p : Placement} (h : r.place p = .ok (row, r')) :
    r.HasPort p.structureId p.spot ∧ ∃ fiber, r.terminate p.fiber = .ok fiber ∧
      (row, r') = (r.writeEndpoints p.structureId p.spot.side
        (fun _ e => { e with fiber := some fiber })
        (r.fanOut p.structureId p.spot)).openRow p.structureId p.spot.port := by
  simp only [place, bind_eq_ok] at h
  obtain ⟨⟨⟩, hport, fiber, hfiber, h⟩ := h
  exact ⟨requirePort_eq_ok.1 hport, fiber, hfiber, (Except.ok.inj h).symm⟩

def vacated (r : Registry) (id : StructureId) (side : Side) (ports : List PortNumber) :
    Table (StructureId × PortNumber) Splice :=
  r.rows.mapEntries fun key row =>
    if key.1 = id ∧ key.2 ∈ ports then row.setFiber side none else row

def withoutUpload (r : Registry) (id : StructureId) (spot : PortSide) :
    Table MergeGroupId MergeGroup :=
  match r.groupAt id spot with
  | some group => r.groups.modify group.id ({ · with fibers := [] })
  | none => r.groups

theorem clear_eq_ok {outcome : ClearOutcome} (h : r.clear id spot = .ok (outcome, r')) :
    (∃ record, r.structures.find? id = some record) ∧
      r' = { r with
        groups := r.withoutUpload id spot
        rows := r.vacated id spot.side (r.fanOut id spot) : Registry }.prune id := by
  simp only [clear, bind_eq_ok] at h
  obtain ⟨record, hrecord, h⟩ := h
  exact ⟨⟨record, structure?_eq_ok.1 hrecord⟩, (congrArg Prod.snd (Except.ok.inj h)).symm⟩

theorem requireUngrouped_eq_ok (h : r.requireUngrouped id side ports = .ok ())
    (hport : port ∈ ports) :
    r.HasPort id ⟨port, side⟩ ∧ r.groupAt id ⟨port, side⟩ = none := by
  induction ports with
  | nil => cases hport
  | cons first ports ih =>
    simp only [requireUngrouped, bind_eq_ok] at h
    obtain ⟨⟨⟩, hfirst, h⟩ := h
    split at h
    · simp [bind, Except.bind] at h
    next hgroup =>
      rcases List.mem_cons.1 hport with rfl | hport
      · exact ⟨requirePort_eq_ok.1 hfirst, by simpa using hgroup⟩
      · exact ih h hport

theorem merge_eq_ok {groupId : MergeGroupId}
    (h : r.merge limits id ports side = .ok (groupId, r')) :
    ∃ sorted, PortRun.validate ports (some limits.groupSize) = .ok sorted ∧
      r.requireUngrouped id side sorted = .ok () ∧ groupId = ⟨r.ids.next.1⟩ ∧
      let group : MergeGroup :=
        { id := groupId, structureId := id, side, ports := sorted, fibers := [] }
      r' = { r with groups := r.groups.insert groupId group, ids := r.ids.next.2 : Registry
        }.writeEndpoints id side
          (fun _ _ => ⟨r.firstFiber id side sorted, some groupId, some group.span⟩) sorted := by
  simp only [merge, bind_eq_ok] at h
  obtain ⟨sorted, hsorted, ⟨⟩, hungrouped, h⟩ := h
  have h := Except.ok.inj h
  obtain rfl : _ = groupId := congrArg Prod.fst h
  exact ⟨sorted, hsorted, hungrouped, rfl, (congrArg Prod.snd h).symm⟩

theorem unmerge_eq_ok {groupId : MergeGroupId} (h : r.unmerge groupId ports = .ok r') :
    ∃ group, r.groups.find? groupId = some group ∧ sortNumbers ports = group.ports ∧
      r' = { r.writeEndpoints group.structureId group.side group.keepFirst group.ports with
        groups := r.groups.erase groupId }.prune group.structureId := by
  simp only [unmerge, bind_eq_ok] at h
  obtain ⟨group, hgroup, h⟩ := h
  refine ⟨group, group?_eq_ok.1 hgroup, ?_⟩
  split at h
  · simp [bind, Except.bind] at h
  next hports =>
    refine ⟨not_not.1 hports, ?_⟩
    have h := (Except.ok.inj h).symm
    rw [groups_writeEndpoints] at h
    exact h

theorem upload_eq_ok {groupId : MergeGroupId} {fibers : List FiberRef}
    (h : r.upload limits groupId side fibers = .ok r') :
    ∃ group, r.groups.find? groupId = some group ∧ group.side = side ∧ fibers ≠ [] ∧
      fibers.length ≤ group.ports.length ∧ fibers.length ≤ limits.uploadSize ∧
      ∃ shown, fibers.mapM r.terminate = .ok shown ∧
        r' = { r.writeEndpoints group.structureId side (fun _ e => { e with fiber := shown.head? })
            group.ports with
          groups := r.groups.modify groupId ({ · with fibers := shown }) } := by
  simp only [upload, bind_eq_ok] at h
  obtain ⟨group, hgroup, h⟩ := h
  refine ⟨group, group?_eq_ok.1 hgroup, ?_⟩
  split at h
  · simp [bind, Except.bind] at h
  next hside =>
    split at h
    · simp [bind, Except.bind] at h
    next hempty =>
      split at h
      · simp [bind, Except.bind] at h
      next hsize =>
        simp only [bind_eq_ok] at h
        obtain ⟨shown, hshown, h⟩ := h
        refine ⟨not_not.1 hside, by simpa using hempty, by omega, by omega, shown, hshown, ?_⟩
        have h := (Except.ok.inj h).symm
        rw [groups_writeEndpoints] at h
        exact h

/-! ### What is enough -/

theorem exists_place {p : Placement} {fiber : Termination} (hport : r.HasPort p.structureId p.spot)
    (hfiber : r.terminate p.fiber = .ok fiber) : ∃ a, r.place p = .ok a := by
  simp only [place, bind_eq_ok]
  exact ⟨_, (), requirePort_eq_ok.2 hport, fiber, hfiber, rfl⟩

theorem exists_clear (spot : PortSide) {record : Structure}
    (hknown : r.structures.find? id = some record) : ∃ a, r.clear id spot = .ok a := by
  simp only [clear, bind_eq_ok]
  exact ⟨_, record, structure?_eq_ok.2 hknown, rfl⟩

theorem exists_unmerge {groupId : MergeGroupId} (hkey : r.groups.find? groupId = some group)
    (hports : sortNumbers ports = group.ports) : ∃ r', r.unmerge groupId ports = .ok r' := by
  simp only [unmerge, bind_eq_ok]
  exact ⟨_, group, group?_eq_ok.2 hkey, if_neg (not_not.2 hports)⟩

theorem exists_upload {groupId : MergeGroupId} {fibers : List FiberRef} {shown : List Termination}
    (hkey : r.groups.find? groupId = some group) (hne : fibers ≠ [])
    (hsize : fibers.length ≤ group.ports.length) (hlimit : fibers.length ≤ limits.uploadSize)
    (hshown : fibers.mapM r.terminate = .ok shown) :
    ∃ r', r.upload limits groupId group.side fibers = .ok r' := by
  have hfits : ¬(group.ports.length < fibers.length ∨ limits.uploadSize < fibers.length) := by omega
  have hsome : ¬fibers.isEmpty = true := by simpa using hne
  simp only [upload, bind_eq_ok]
  exact ⟨_, group, group?_eq_ok.2 hkey, (if_neg (not_not.2 rfl)).trans
    ((if_neg hsome).trans ((if_neg hfits).trans (bind_eq_ok.2 ⟨shown, hshown, rfl⟩)))⟩

end Registry
end CrossConnect
