import CrossConnect.Client.Job
import CrossConnect.Drop

/-!
Putting a single fiber on a port, taking it off, and moving it. The editor changes at once; the
authority's answer then settles the rows, and its refusal restores them.
-/
namespace CrossConnect

/-- How the answer to a write is folded into the rows. -/
inductive Settlement
  | row (row : Splice)
  | listing (rows : List Splice)
  | prune
deriving DecidableEq, Repr

def Settlement.edit (id : StructureId) : Settlement → Edit
  | row r => .confirm id r
  | listing rows => .replaceRows id rows
  | prune => .prune id

def Failure.missingLocalPort (spot : PortSide) : Failure :=
  ⟨.validation, s!"port {spot} does not exist on this structure"⟩

namespace Client

/-- Applies an edit, runs the remote part, then settles the rows, or puts the rows from before the
edit back. Neither touches the editor once another structure is selected. -/
def optimistically (id : StructureId) (edit : Edit) (remote : Attempt Settlement) : Attempt Unit :=
  .mk do
    let before := (← Job.client).editor.rows
    Job.apply edit
    match ← remote.run with
    | .ok settlement =>
      Job.apply (settlement.edit id)
      return .ok ()
    | .error e =>
      Job.apply (.replaceRows id before)
      return .error e

def requirePort (editor : Editor) (spot : PortSide) : Except Failure Unit :=
  if spot.port ∈ Occupancy.sidePorts editor.ports spot.side then .ok ()
  else .error (.missingLocalPort spot)

def checkMerged (spot : PortSide) : Attempt Bool :=
  .mk do
    let editor := (← Job.client).editor
    return (requirePort editor spot).map fun _ => (Occupancy.groupOf editor.rows spot).isSome

def settleMerged (id : StructureId) (merged : Bool) (otherwise : Settlement) : Attempt Settlement :=
  if merged then .listing <$> Attempt.call (.rowsOf id) else return otherwise

def assign (id : StructureId) (spot : PortSide) (fiber : LabelledFiber) : Attempt Unit := do
  let merged ← checkMerged spot
  optimistically id (.place id spot fiber.termination) do
    let row ← Attempt.call (.place ⟨id, spot, fiber.fiber.ref⟩)
    settleMerged id merged (.row row)

def vacate (id : StructureId) (spot : PortSide) : Attempt Unit := do
  let merged ← checkMerged spot
  optimistically id (.vacate id spot) do
    let _ ← Attempt.call (.clear id spot)
    settleMerged id merged .prune

def dropFiber (spot : PortSide) (fiber : LabelledFiber) : Job Bool := do
  match (← Job.client).editor.structureId with
  | none => return false
  | some id =>
    match ← (assign id spot fiber).run with
    | .ok () =>
      Job.notify (.success s!"Fiber {fiber.fiber.absolute} connected to port {spot}")
      return true
    | .error e =>
      Job.notify (.ofFailure "Could not connect fiber" e)
      return false

def clearPort (spot : PortSide) : Job Bool := do
  match (← Job.client).editor.structureId with
  | none => return false
  | some id =>
    match ← (vacate id spot).run with
    | .ok () =>
      Job.notify (.success s!"Port {spot} cleared")
      return true
    | .error e =>
      Job.notify (.ofFailure "Could not clear port" e)
      return false

/-- Puts a fiber on the target first and then clears the source, so that a failure between the two
leaves it on both. -/
def moveFiber (source target : PortSide) (fiber : LabelledFiber) : Job Bool := do
  if source = target then return false
  match (← Job.client).editor.structureId with
  | none => return false
  | some id =>
    match ← (assign id target fiber).run with
    | .error e =>
      Job.notify (.ofFailure "Could not move fiber" e)
      return false
    | .ok () =>
      match ← (vacate id source).run with
      | .error e =>
        let both := s!"port {source} and port {target}"
        Job.notify (.warning s!"Fiber {fiber.fiber.absolute} is now on both {both}: {e.message}")
        return false
      | .ok () =>
        Job.notify (.success s!"Fiber {fiber.fiber.absolute} moved to port {target}")
        return true

end Client
end CrossConnect
