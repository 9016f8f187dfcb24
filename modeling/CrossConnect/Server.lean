import CrossConnect.Settings

/-!
The authority as its clients meet it: eight calls, each recorded in a log, each refused while one of
its failpoints is set, and otherwise performed on the registry.
-/
namespace CrossConnect

inductive Call
  | portsOf (componentType : ComponentTypeId)
  | rowsOf (structureId : StructureId)
  | fibersOf (cable : CableId)
  | place (placement : Placement)
  | clear (structureId : StructureId) (spot : PortSide)
  | merge (structureId : StructureId) (ports : List PortNumber) (side : Side)
  | unmerge (group : MergeGroupId) (ports : List PortNumber)
  | upload (group : MergeGroupId) (side : Side) (fibers : List FiberRef)
deriving DecidableEq, Repr

namespace Call

@[reducible] def Answer : Call → Type
  | portsOf _ => List Port
  | rowsOf _ => List Splice
  | fibersOf _ => List Fiber
  | place _ => Splice
  | clear _ _ => ClearOutcome
  | merge _ _ _ => Unit
  | unmerge _ _ => Unit
  | upload _ _ _ => Unit

def name : Call → String
  | portsOf _ => "get_component_ports"
  | rowsOf _ => "get_fiber_splices"
  | fibersOf _ => "get_fibers_for_cable"
  | place _ => "upsert_fiber_splice"
  | clear _ _ => "clear_fiber_splice"
  | merge _ _ _ => "merge_ports"
  | unmerge _ _ => "unmerge_ports"
  | upload _ _ _ => "upsert_merged_splice"

def isWrite : Call → Bool
  | portsOf _ | rowsOf _ | fibersOf _ => false
  | _ => true

def port? : Call → Option PortNumber
  | place p => some p.spot.port
  | clear _ spot => some spot.port
  | _ => none

def failpointKeys (c : Call) : List String :=
  c.name :: (c.port?.map fun port => s!"{c.name}:port={port}").toList

end Call

def Failure.failpoint (key : String) : Failure :=
  ⟨.rejected, s!"failpoint {key}"⟩

namespace Registry

def portsOf (r : Registry) (id : ComponentTypeId) : Except Failure (List Port) :=
  (·.ports) <$> r.componentType? id

def rowsOf (r : Registry) (id : StructureId) : Except Failure (List Splice) :=
  (fun _ => r.listing id) <$> r.structure? id

def fibersOf (r : Registry) (id : CableId) : Except Failure (List Fiber) :=
  (fun cable => Fiber.sortByAbsolute cable.fibers) <$> r.cable? id

def perform (r : Registry) (limits : Limits) : (c : Call) → Except Failure (c.Answer × Registry)
  | .portsOf id => (·, r) <$> r.portsOf id
  | .rowsOf id => (·, r) <$> r.rowsOf id
  | .fibersOf id => (·, r) <$> r.fibersOf id
  | .place p => r.place p
  | .clear id spot => r.clear id spot
  | .merge id ports side => (fun answer => ((), answer.2)) <$> r.merge limits id ports side
  | .unmerge group ports => ((), ·) <$> r.unmerge group ports
  | .upload group side fibers => ((), ·) <$> r.upload limits group side fibers

end Registry

structure Server where
  registry : Registry
  limits : Limits
  failpoints : List String := []
  log : List Call := []

namespace Server

def setFailpoint (s : Server) (key : String) : Server :=
  if key ∈ s.failpoints then s else { s with failpoints := s.failpoints ++ [key] }

def clearFailpoint (s : Server) (key : String) : Server :=
  { s with failpoints := s.failpoints.filter (· ≠ key) }

def ofSettings (settings : ServerSettings) (ids : IdSource) : Server :=
  (settings.failpoints.getD []).foldl setFailpoint
    { registry := { ids }, limits := settings.effectiveLimits }

def failpointFor (s : Server) (c : Call) : Option String :=
  c.failpointKeys.find? (· ∈ s.failpoints)

def answer (s : Server) (c : Call) : Except Failure c.Answer × Server :=
  let s := { s with log := s.log ++ [c] }
  match s.failpointFor c with
  | some key => (.error (.failpoint key), s)
  | none =>
    match s.registry.perform s.limits c with
    | .ok (a, registry) => (.ok a, { s with registry })
    | .error e => (.error e, s)

def resetLog (s : Server) : Server :=
  { s with log := [] }

def writes (s : Server) : List Call :=
  s.log.filter Call.isWrite

end Server
end CrossConnect
