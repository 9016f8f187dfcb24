import CrossConnect.Client.Fill

/-!
Merge groups on the client: choosing ports, merging and unmerging them, and drops onto a whole
group.
-/
namespace CrossConnect

namespace Failure

def nothingSelected : Failure :=
  ⟨.validation, "no structure selected"⟩

def mixedSides : Failure :=
  ⟨.validation, "merged ports must all be on the same side"⟩

def alreadyMerged (spot : PortSide) : Failure :=
  ⟨.validation, s!"port {spot} is already merged"⟩

end Failure

namespace Client

def toggleMergeMode : Job Bool := do
  Job.apply .toggleMergeMode
  return (← Job.client).editor.mergeMode

def togglePort (spot : PortSide) : Job Bool := do
  Job.apply (.togglePort spot)
  return (← Job.client).editor.selection.contains spot

def requireUnmerged (editor : Editor) (side : Side) : List PortNumber → Except Failure Unit
  | [] => .ok ()
  | port :: ports => do
    requirePort editor ⟨port, side⟩
    if (Occupancy.groupOf editor.rows ⟨port, side⟩).isSome then .error (.alreadyMerged ⟨port, side⟩)
    requireUnmerged editor side ports

def checkSelection (editor : Editor) (limit : Option Nat) :
    Except Failure (StructureId × Side × List PortNumber) := do
  let some id := editor.structureId | .error .nothingSelected
  let some first := editor.selection.head? | .error .tooFewPorts
  let side := first.side
  if editor.selection.any (·.side ≠ side) then .error .mixedSides
  let ports ← PortRun.validate (editor.selection.map (·.port)) limit
  requireUnmerged editor side ports
  return (id, side, ports)

/-- Merges the chosen ports into one group. Nothing is sent for a choice that cannot be merged. -/
def mergeSelected : Job Bool := do
  let { settings, editor, .. } ← Job.client
  match checkSelection editor settings.maxGroupSize with
  | .error e =>
    Job.notify (.ofFailure "Cannot merge ports" e)
    return false
  | .ok (id, side, ports) =>
    let remote : Attempt (List Splice) := do
      Attempt.call (.merge id ports side)
      Attempt.call (.rowsOf id)
    match ← remote.run with
    | .ok rows =>
      Job.apply (.replaceRows id rows)
      Job.apply .clearSelection
      Job.notify (.success s!"Ports {(GroupSpan.ofPorts ports).label}{side} merged")
      return true
    | .error e =>
      Job.notify (.ofFailure "Could not merge ports" e)
      return false

def portsOfGroup (editor : Editor) (group : MergeGroupId) : List PortNumber :=
  match Occupancy.groupSide editor.rows group with
  | some side => Occupancy.groupPorts editor.rows group side
  | none => []

/-- Dissolves a merge group. Without ports they are read off the rows; a group that no row knows is
passed over in silence. -/
def unmerge (group : MergeGroupId) (ports : Option (List PortNumber)) : Job Bool := do
  let editor := (← Job.client).editor
  let ports := (ports.filter (!·.isEmpty)).getD (portsOfGroup editor group)
  match editor.structureId with
  | none => return false
  | some id =>
    if ports.isEmpty then return false
    else
      let remote : Attempt (List Splice) := do
        Attempt.call (.unmerge group ports)
        Attempt.call (.rowsOf id)
      match ← remote.run with
      | .ok rows =>
        Job.apply (.replaceRows id rows)
        Job.notify (.success s!"Ports {(GroupSpan.ofPorts ports).label} unmerged")
        return true
      | .error e =>
        Job.notify (.ofFailure "Could not unmerge ports" e)
        return false

def uploadToGroup (id : StructureId) (group : MergeGroupId) (spot : PortSide)
    (fibers : List Fiber) (cableName : String) : Attempt Unit :=
  match fibers.head? with
  | none => throw .noFibers
  | some first =>
    optimistically id (.place id spot (.ofFiber first cableName)) do
      Attempt.call (.upload group spot.side (fibers.map Fiber.ref))
      .listing <$> Attempt.call (.rowsOf id)

def fillGroup (id : StructureId) (group : MergeGroupId) (ports : List PortNumber) (spot : PortSide)
    (fibers : List Fiber) (cableName : String) : Job Bool := do
  let fibers := fibers.take ports.length
  match ← (uploadToGroup id group spot fibers cableName).run with
  | .ok () =>
    Job.notify (.success
      s!"{fibers.length} fibers assigned to ports {(GroupSpan.ofPorts ports).label}{spot.side}")
    return true
  | .error e =>
    Job.notify (.ofFailure "Could not assign merged fibers" e)
    return false

def dropOnGroup (group : MergeGroupId) (side : Side) (drop : Drop) : Job Bool := do
  let editor := (← Job.client).editor
  match editor.structureId with
  | none => return false
  | some id =>
    let ports := Occupancy.groupPorts editor.rows group side
    match ports.head? with
    | none =>
      Job.notify (.warning s!"Merge group not found on side {side}")
      return false
    | some first =>
      match drop with
      | .fiber fiber => dropFiber ⟨first, side⟩ fiber
      | .bundle bundle =>
        fillGroup id group ports ⟨first, side⟩ (Fiber.sortByAbsolute bundle.fibers) bundle.cableName
      | .cable cable =>
        match ← (cableFibers cable).run with
        | .ok fibers => fillGroup id group ports ⟨first, side⟩ fibers cable.name
        | .error e =>
          Job.notify (.ofFailure "Could not load cable fibers" e)
          return false
      | .mounted _ | .component _ =>
        Job.notify (.warning s!"A {drop.kind} cannot be dropped on a port")
        return false

/-- The merge group of a port side, as its row records it or else as the rows together show it. -/
def groupView (editor : Editor) (spot : PortSide) : Option GroupView := do
  let row ← editor.row spot.port
  let group ← row.group spot.side
  let span := ((row.endpoint spot.side).span).getD
    (.ofPorts (Occupancy.groupPorts editor.rows group spot.side))
  return { group, ports := span.ports, size := span.size, label := span.label }

end Client
end CrossConnect
