import CrossConnect.Node.Cable
import CrossConnect.PortRun

/-!
Splice rows: what is connected to the two sides of a port, and the merge groups that let several
neighbouring ports share a fiber.
-/
namespace CrossConnect

/-- What is shown of the fiber that ends on one side of a port. -/
structure Termination where
  fiberId : FiberId
  cableId : CableId
  absolute : UInt32
  bundle : UInt32
  color : String
  cableName : String
deriving DecidableEq, Repr

def Termination.ofFiber (fiber : Fiber) (cableName : String) : Termination :=
  { fiberId := fiber.id
    cableId := fiber.cableId
    absolute := fiber.absolute
    bundle := fiber.bundle
    color := fiber.color
    cableName }

structure GroupSpan where
  ports : List PortNumber
  size : UInt64
deriving DecidableEq, Repr

namespace GroupSpan

def ofPorts (ports : List PortNumber) : GroupSpan :=
  { ports := sortNumbers ports, size := UInt64.ofNat ports.length }

def first? (span : GroupSpan) : Option PortNumber :=
  span.ports.head?

def contains (span : GroupSpan) (port : PortNumber) : Bool :=
  span.ports.contains port

def label (span : GroupSpan) : String :=
  PortRun.label span.ports

end GroupSpan

structure Endpoint where
  fiber : Option Termination := none
  group : Option MergeGroupId := none
  span : Option GroupSpan := none
deriving DecidableEq, Repr

def Endpoint.isVacant (e : Endpoint) : Bool :=
  e.fiber.isNone && e.group.isNone

structure Splice where
  id : RowId
  structureId : StructureId
  port : PortNumber
  endpointA : Endpoint := {}
  endpointB : Endpoint := {}
deriving DecidableEq, Repr

namespace Splice

def endpoint (row : Splice) : Side → Endpoint
  | .a => row.endpointA
  | .b => row.endpointB

def mapEndpoint (row : Splice) (side : Side) (f : Endpoint → Endpoint) : Splice :=
  match side with
  | .a => { row with endpointA := f row.endpointA }
  | .b => { row with endpointB := f row.endpointB }

@[simp] theorem endpoint_mapEndpoint (row : Splice) (side other : Side) (f : Endpoint → Endpoint) :
    (row.mapEndpoint side f).endpoint other =
      if other = side then f (row.endpoint other) else row.endpoint other := by
  cases side <;> cases other <;> rfl

@[simp] theorem id_mapEndpoint (row : Splice) (side : Side) (f : Endpoint → Endpoint) :
    (row.mapEndpoint side f).id = row.id := by
  cases side <;> rfl

@[simp] theorem structureId_mapEndpoint (row : Splice) (side : Side) (f : Endpoint → Endpoint) :
    (row.mapEndpoint side f).structureId = row.structureId := by
  cases side <;> rfl

@[simp] theorem port_mapEndpoint (row : Splice) (side : Side) (f : Endpoint → Endpoint) :
    (row.mapEndpoint side f).port = row.port := by
  cases side <;> rfl

def fiber (row : Splice) (side : Side) : Option Termination :=
  (row.endpoint side).fiber

def group (row : Splice) (side : Side) : Option MergeGroupId :=
  (row.endpoint side).group

def setFiber (row : Splice) (side : Side) (fiber : Option Termination) : Splice :=
  row.mapEndpoint side ({ · with fiber })

def isEmpty (row : Splice) : Bool :=
  row.endpointA.isVacant && row.endpointB.isVacant

end Splice

/-- A run of ports on one side that share one fiber. -/
structure MergeGroup where
  id : MergeGroupId
  structureId : StructureId
  side : Side
  ports : List PortNumber
  /-- The fibers of the last upload, in upload order. -/
  fibers : List Termination
deriving DecidableEq, Repr

def MergeGroup.span (group : MergeGroup) : GroupSpan :=
  GroupSpan.ofPorts group.ports

end CrossConnect
