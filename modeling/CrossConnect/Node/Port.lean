import CrossConnect.Id

/-!
Ports, the component types that carry them, and the structures mounted in a node.
-/
namespace CrossConnect

abbrev PortNumber := UInt32

inductive Direction
  | inward
  | outward
deriving DecidableEq, Repr

/-- Side of a splice row: side `a` is the inward ports, side `b` the outward ones. -/
inductive Side
  | a
  | b
deriving DecidableEq, Repr

namespace Side

def direction : Side → Direction
  | a => .inward
  | b => .outward

def ofDirection : Direction → Side
  | .inward => a
  | .outward => b

def name : Side → String
  | a => "a"
  | b => "b"

instance : ToString Side := ⟨name⟩

end Side

structure PortSide where
  port : PortNumber
  side : Side
deriving DecidableEq, Repr

instance : ToString PortSide := ⟨fun spot => toString spot.port ++ toString spot.side⟩

structure Port where
  number : PortNumber
  direction : Direction
  label : Option String
deriving DecidableEq, Repr

def Port.side (port : Port) : Side :=
  Side.ofDirection port.direction

structure ComponentType where
  id : ComponentTypeId
  name : String
  ports : List Port
deriving DecidableEq, Repr

def oneTo (count : UInt32) : List UInt32 :=
  (List.range count.toNat).map fun i => UInt32.ofNat (i + 1)

def ComponentType.withPorts (id : ComponentTypeId) (name : String) (inward outward : UInt32) :
    ComponentType :=
  { id, name
    ports := (oneTo inward).map (⟨·, .inward, none⟩) ++ (oneTo outward).map (⟨·, .outward, none⟩) }

structure Structure where
  id : StructureId
  name : String
  slotStart : UInt32
  slotEnd : UInt32
  componentType : Option ComponentTypeId
deriving DecidableEq, Repr

def Structure.exposesPorts (s : Structure) : Bool :=
  s.componentType.isSome

end CrossConnect
