import CrossConnect.Node.Plan
import CrossConnect.Splice
import CrossConnect.Table

/-!
The authority's record of a node: what is mounted and cabled, the splice rows and the merge groups.
Every operation first checks its request and then answers with the changed record, so a refused
request leaves the record as it was.
-/
namespace CrossConnect

/-! ### Refusals -/

namespace Failure

def unknownComponentType (id : ComponentTypeId) : Failure :=
  ⟨.notFound, s!"component type {id}"⟩

def unknownStructure (id : StructureId) : Failure :=
  ⟨.notFound, s!"structure {id}"⟩

def unknownCable (id : CableId) : Failure :=
  ⟨.notFound, s!"cable {id}"⟩

def unknownFiber (id : FiberId) (cableName : String) : Failure :=
  ⟨.notFound, s!"fiber {id} in cable {cableName}"⟩

def unknownGroup (id : MergeGroupId) : Failure :=
  ⟨.notFound, s!"merge group {id}"⟩

def noComponentType (structureName : String) : Failure :=
  ⟨.rejected, s!"structure {structureName} has no component type"⟩

def missingPort (spot : PortSide) (structureName : String) : Failure :=
  ⟨.rejected, s!"port {spot.port} does not exist on side {spot.side} of {structureName}"⟩

def alreadyGrouped (spot : PortSide) : Failure :=
  ⟨.conflict, s!"port {spot.port} side {spot.side} already belongs to a merge group"⟩

def wrongGroupPorts (requested : List PortNumber) (group : MergeGroup) : Failure :=
  let list := ", ".intercalate (requested.map toString)
  ⟨.validation, s!"ports [{list}] do not match merge group {group.span.label}"⟩

def wrongGroupSide (group : MergeGroup) (side : Side) : Failure :=
  ⟨.validation, s!"merge group {group.span.label} is on side {group.side}, not {side}"⟩

def noFibers : Failure :=
  ⟨.validation, "no fibers to assign"⟩

def tooManyFibers (count : Nat) (group : MergeGroup) : Failure :=
  ⟨.validation, s!"{count} fibers exceed merge group {group.span.label}"⟩

end Failure

structure FiberRef where
  fiberId : FiberId
  cableId : CableId
deriving DecidableEq, Repr

def Fiber.ref (fiber : Fiber) : FiberRef :=
  ⟨fiber.id, fiber.cableId⟩

structure Placement where
  structureId : StructureId
  spot : PortSide
  fiber : FiberRef
deriving DecidableEq, Repr

structure ClearOutcome where
  deleted : Bool
deriving DecidableEq, Repr

structure Limits where
  groupSize : Nat
  uploadSize : Nat
deriving DecidableEq, Repr

structure Registry where
  componentTypes : Table ComponentTypeId ComponentType := .empty
  structures : Table StructureId Structure := .empty
  cables : Table CableId Cable := .empty
  rows : Table (StructureId × PortNumber) Splice := .empty
  groups : Table MergeGroupId MergeGroup := .empty
  ids : IdSource

namespace Registry

/-! ### Contents -/

def addComponentType (r : Registry) (c : ComponentType) : Registry :=
  { r with componentTypes := r.componentTypes.insert c.id c }

def addStructure (r : Registry) (s : Structure) : Except Failure Registry :=
  match s.componentType with
  | none => .ok { r with structures := r.structures.insert s.id s }
  | some c =>
    if r.componentTypes.contains c then .ok { r with structures := r.structures.insert s.id s }
    else .error (.unknownComponentType c)

def addCable (r : Registry) (c : Cable) : Registry :=
  { r with cables := r.cables.insert c.id c }

def addStructures (r : Registry) : List Structure → Except Failure Unit × Registry
  | [] => (.ok (), r)
  | s :: rest =>
    match r.addStructure s with
    | .ok r => r.addStructures rest
    | .error e => (.error e, r)

/-- Adds what a plan describes: component types, structures, cables. The first structure that is
refused ends it; what was added before stays. -/
def load (r : Registry) (plan : NodePlan) : Except Failure Unit × Registry :=
  let r := plan.componentTypes.foldl (fun r c => r.addComponentType c.build) r
  match r.addStructures plan.structures with
  | (.ok (), r) =>
    let (cables, ids) := plan.buildCables r.ids
    (.ok (), cables.foldl addCable { r with ids })
  | refused => refused

def structuresBySlot (r : Registry) : List Structure :=
  sortBy (fun s t => decide (s.slotStart ≤ t.slotStart)) r.structures.values

def cablesByName (r : Registry) : List Cable :=
  sortBy (fun c d => decide (c.name ≤ d.name)) r.cables.values

def structure? (r : Registry) (id : StructureId) : Except Failure Structure :=
  match r.structures.find? id with
  | some s => .ok s
  | none => .error (.unknownStructure id)

def cable? (r : Registry) (id : CableId) : Except Failure Cable :=
  match r.cables.find? id with
  | some c => .ok c
  | none => .error (.unknownCable id)

def componentType? (r : Registry) (id : ComponentTypeId) : Except Failure ComponentType :=
  match r.componentTypes.find? id with
  | some c => .ok c
  | none => .error (.unknownComponentType id)

def group? (r : Registry) (id : MergeGroupId) : Except Failure MergeGroup :=
  match r.groups.find? id with
  | some g => .ok g
  | none => .error (.unknownGroup id)

def listing (r : Registry) (id : StructureId) : List Splice :=
  (sortBy (fun e f => decide (e.1.2 ≤ f.1.2)) (r.rows.entries.filter (·.1.1 = id))).map (·.2)

def requirePort (r : Registry) (id : StructureId) (spot : PortSide) : Except Failure Unit := do
  let s ← r.structure? id
  let some typeId := s.componentType | .error (.noComponentType s.name)
  let c ← r.componentType? typeId
  if c.ports.any fun port => port.number = spot.port ∧ port.side = spot.side then .ok ()
  else .error (.missingPort spot s.name)

/-- What a row shows of a fiber that a request names. -/
def terminate (r : Registry) (fiber : FiberRef) : Except Failure Termination := do
  let cable ← r.cable? fiber.cableId
  match cable.fibers.find? (·.id = fiber.fiberId) with
  | some f => .ok (.ofFiber f cable.name)
  | none => .error (.unknownFiber fiber.fiberId cable.name)

def groupAt (r : Registry) (id : StructureId) (spot : PortSide) : Option MergeGroup :=
  r.groups.values.find? fun g => g.structureId = id ∧ g.side = spot.side ∧ spot.port ∈ g.ports

def fanOut (r : Registry) (id : StructureId) (spot : PortSide) : List PortNumber :=
  match r.groupAt id spot with
  | some g => g.ports
  | none => [spot.port]

/-! ### Rows -/

def openRow (r : Registry) (id : StructureId) (port : PortNumber) : Splice × Registry :=
  match r.rows.find? (id, port) with
  | some row => (row, r)
  | none =>
    let (uuid, ids) := r.ids.next
    let row : Splice := { id := .persisted uuid, structureId := id, port }
    (row, { r with rows := r.rows.insert (id, port) row, ids })

def writeEndpoint (r : Registry) (id : StructureId) (side : Side) (f : Endpoint → Endpoint)
    (port : PortNumber) : Registry :=
  let (row, r) := r.openRow id port
  { r with rows := r.rows.insert (id, port) (row.mapEndpoint side f) }

def writeEndpoints (r : Registry) (id : StructureId) (side : Side)
    (f : PortNumber → Endpoint → Endpoint) (ports : List PortNumber) : Registry :=
  ports.foldl (fun r port => r.writeEndpoint id side (f port) port) r

def prune (r : Registry) (id : StructureId) : Registry :=
  { r with rows := r.rows.filter fun key row => decide (key.1 ≠ id) || !row.isEmpty }

/-! ### Operations -/

/-- Puts a fiber on a port side and on all ports merged with it; answers with the row. -/
def place (r : Registry) (p : Placement) : Except Failure (Splice × Registry) := do
  r.requirePort p.structureId p.spot
  let fiber ← r.terminate p.fiber
  let r := r.writeEndpoints p.structureId p.spot.side (fun _ e => { e with fiber := some fiber })
    (r.fanOut p.structureId p.spot)
  return r.openRow p.structureId p.spot.port

/-- Takes the fiber off a port side and off all ports merged with it, and forgets the group's
upload. -/
def clear (r : Registry) (id : StructureId) (spot : PortSide) :
    Except Failure (ClearOutcome × Registry) := do
  let _ ← r.structure? id
  let targets := r.fanOut id spot
  let groups := match r.groupAt id spot with
    | some g => r.groups.modify g.id ({ · with fibers := [] })
    | none => r.groups
  let rows := r.rows.mapEntries fun key row =>
    if key.1 = id ∧ key.2 ∈ targets then row.setFiber spot.side none else row
  let r := { r with groups, rows }.prune id
  return (⟨!r.rows.contains (id, spot.port)⟩, r)

def requireUngrouped (r : Registry) (id : StructureId) (side : Side) :
    List PortNumber → Except Failure Unit
  | [] => .ok ()
  | port :: ports => do
    r.requirePort id ⟨port, side⟩
    if (r.groupAt id ⟨port, side⟩).isSome then .error (.alreadyGrouped ⟨port, side⟩)
    r.requireUngrouped id side ports

def firstFiber (r : Registry) (id : StructureId) (side : Side) (ports : List PortNumber) :
    Option Termination :=
  ports.findSome? fun port => (r.rows.find? (id, port)).bind (·.fiber side)

/-- Makes a merge group of a run of ports; all of them get the fiber of the lowest port that has
one. Answers with the new group's identifier. -/
def merge (r : Registry) (limits : Limits) (id : StructureId) (ports : List PortNumber)
    (side : Side) : Except Failure (MergeGroupId × Registry) := do
  let ports ← PortRun.validate ports (some limits.groupSize)
  r.requireUngrouped id side ports
  let fiber := r.firstFiber id side ports
  let (uuid, ids) := r.ids.next
  let group : MergeGroup := { id := ⟨uuid⟩, structureId := id, side, ports, fibers := [] }
  let r := { r with groups := r.groups.insert group.id group, ids }
  let endpoint : Endpoint := { fiber, group := some group.id, span := some group.span }
  return (group.id, r.writeEndpoints id side (fun _ _ => endpoint) ports)

/-- Dissolves a merge group named with exactly its ports; only the first port keeps the fiber. -/
def unmerge (r : Registry) (groupId : MergeGroupId) (ports : List PortNumber) :
    Except Failure Registry := do
  let group ← r.group? groupId
  let requested := sortNumbers ports
  if requested ≠ group.ports then .error (.wrongGroupPorts requested group)
  let keeper := group.span.first?
  let r := r.writeEndpoints group.structureId group.side
    (fun port e => { fiber := if some port = keeper then e.fiber else none }) group.ports
  return { r with groups := r.groups.erase groupId }.prune group.structureId

/-- Records a list of fibers for a merge group; its ports show the first of them. -/
def upload (r : Registry) (limits : Limits) (groupId : MergeGroupId) (side : Side)
    (fibers : List FiberRef) : Except Failure Registry := do
  let group ← r.group? groupId
  if group.side ≠ side then .error (.wrongGroupSide group side)
  if fibers.isEmpty then .error .noFibers
  if group.ports.length < fibers.length ∨ limits.uploadSize < fibers.length then
    .error (.tooManyFibers fibers.length group)
  let shown ← fibers.mapM r.terminate
  let r := r.writeEndpoints group.structureId side (fun _ e => { e with fiber := shown.head? })
    group.ports
  return { r with groups := r.groups.modify groupId ({ · with fibers := shown }) }

end Registry
end CrossConnect
