import CrossConnect.Registry

/-!
What a user can drop onto a port.
-/
namespace CrossConnect

structure LabelledFiber where
  fiber : Fiber
  cableName : String
deriving DecidableEq, Repr

def LabelledFiber.termination (f : LabelledFiber) : Termination :=
  .ofFiber f.fiber f.cableName

inductive Drop
  | fiber (fiber : LabelledFiber)
  | bundle (bundle : Bundle)
  | cable (cable : Cable)
  /-- A structure on its way to another slot; it cannot go onto a port. -/
  | mounted (structureId : StructureId)
  /-- A new component for a slot; it cannot go onto a port. -/
  | component (componentTypeId : ComponentTypeId)
deriving DecidableEq, Repr

namespace Drop

def kind : Drop → String
  | fiber _ => "fiber"
  | bundle _ => "bundle"
  | cable _ => "cable"
  | mounted _ => "existing_structure"
  | component _ => "component_type"

def targetsPorts : Drop → Bool
  | fiber _ | bundle _ | cable _ => true
  | mounted _ | component _ => false

end Drop
end CrossConnect
