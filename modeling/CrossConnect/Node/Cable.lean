import CrossConnect.Id
import CrossConnect.Sorting

/-!
Cables, their bundles and fibers, and the colour code of positions.
-/
namespace CrossConnect

structure Fiber where
  id : FiberId
  cableId : CableId
  absolute : UInt32
  inBundle : UInt32
  bundle : UInt32
  color : String
deriving DecidableEq, Repr

structure Bundle where
  cableId : CableId
  cableName : String
  number : UInt32
  color : String
  fibers : List Fiber
deriving DecidableEq, Repr

/-- A cable; without fibers it stands for the cable of that identifier. -/
structure Cable where
  id : CableId
  name : String
  fibers : List Fiber
deriving DecidableEq, Repr

/-- The twelve colours of the TIA-598 code, in order. -/
def colorCode : Vector String 12 :=
  #v["blue", "orange", "green", "brown", "slate", "white", "red", "black", "yellow", "violet",
    "rose", "aqua"]

/-- Colour of a position counted from 1; the code repeats after twelve, and 0 counts as 1. -/
def colorOf (position : UInt32) : String :=
  colorCode.get ⟨(position.toNat - 1) % 12, Nat.mod_lt _ (by decide)⟩

namespace Fiber

def sortByAbsolute (fibers : List Fiber) : List Fiber :=
  sortBy (fun f g => decide (f.absolute ≤ g.absolute)) fibers

def dropOrder (f g : Fiber) : Bool :=
  decide (f.bundle < g.bundle) || (decide (f.bundle = g.bundle) && decide (f.absolute ≤ g.absolute))

def sortByBundle (fibers : List Fiber) : List Fiber :=
  sortBy dropOrder fibers

end Fiber

def Cable.bundles (cable : Cable) : List Bundle :=
  (ascending (cable.fibers.map (·.bundle))).map fun number =>
    { cableId := cable.id
      cableName := cable.name
      number
      color := colorOf number
      fibers := Fiber.sortByAbsolute (cable.fibers.filter (·.bundle = number)) }

end CrossConnect
