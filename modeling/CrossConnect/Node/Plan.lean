import CrossConnect.Node.Cable
import CrossConnect.Node.Port

/-!
Plans: the short description of a node that its component types and cables are built from.
-/
namespace CrossConnect

structure ComponentPlan where
  id : ComponentTypeId
  name : String
  inward : UInt32
  outward : UInt32
deriving DecidableEq, Repr

structure BundlePlan where
  number : UInt32
  fiberCount : UInt32
deriving DecidableEq, Repr

structure CablePlan where
  id : CableId
  name : String
  bundles : List BundlePlan
deriving DecidableEq, Repr

structure NodePlan where
  name : String
  componentTypes : List ComponentPlan
  structures : List Structure
  cables : List CablePlan
deriving DecidableEq, Repr

def ComponentPlan.build (plan : ComponentPlan) : ComponentType :=
  .withPorts plan.id plan.name plan.inward plan.outward

namespace CablePlan

def positions (plan : CablePlan) : List (UInt32 × UInt32) :=
  (sortBy (fun b c => decide (b.number ≤ c.number)) plan.bundles).flatMap fun b =>
    (oneTo b.fiberCount).map (b.number, ·)

/-- The cable with its fibers numbered from 1 across all bundles, bundles ascending. -/
def build (plan : CablePlan) (ids : IdSource) : Cable × IdSource :=
  let positions := plan.positions
  let fibers := positions.zipIdx.map fun ((bundle, inBundle), i) =>
    { id := ⟨ids.draw (ids.drawn + i)⟩
      cableId := plan.id
      absolute := UInt32.ofNat (i + 1)
      inBundle
      bundle
      color := colorOf inBundle : Fiber }
  ({ id := plan.id, name := plan.name, fibers }, ids.skip positions.length)

end CablePlan

def CablePlan.buildAll : List CablePlan → IdSource → List Cable × IdSource
  | [], ids => ([], ids)
  | plan :: plans, ids =>
    let (cable, ids) := plan.build ids
    let (cables, ids) := buildAll plans ids
    (cable :: cables, ids)

def NodePlan.buildCables (plan : NodePlan) (ids : IdSource) : List Cable × IdSource :=
  CablePlan.buildAll plan.cables ids

def NodePlan.structuresBySlot (plan : NodePlan) : List Structure :=
  sortBy (fun s t => decide (s.slotStart ≤ t.slotStart)) plan.structures

end CrossConnect
