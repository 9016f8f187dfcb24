import CrossConnect.Client.Assign
import CrossConnect.Client.Outcome
import CrossConnect.Client.Select

/-!
Bundle and cable fills. Fibers go onto free ports one call at a time, in port order, until the first
failure; what was placed before it stays. A cable goes on in later structures, in slot order, once
the selected one has no free port left.
-/
namespace CrossConnect

def Failure.exposesNoPorts (structureName : String) : Failure :=
  ⟨.validation, s!"structure {structureName} exposes no ports"⟩

structure FillTarget where
  structureId : StructureId
  inEditor : Bool
  ports : List PortNumber
  rows : List Splice
deriving DecidableEq, Repr

structure FillPass where
  report : FillReport
  placed : Nat := 0
  failure : Option Failure := none
deriving DecidableEq, Repr

def FillPass.add (pass : FillPass) (id : StructureId) : FillPass :=
  { pass with report := pass.report.add id, placed := pass.placed + 1 }

inductive FillKind
  | bundle
  | cable
deriving DecidableEq, Repr

def FillKind.name : FillKind → String
  | bundle => "bundle"
  | cable => "cable"

namespace Client

def rejectFill (reason : String) : Job FillOutcome := do
  Job.notify (.warning reason)
  return .rejected reason

def refuseFill : Job FillOutcome :=
  rejectFill "Another fill or structure switch is still running"

def noFreePorts (start : PortSide) : Job FillOutcome :=
  rejectFill s!"No free ports from port {start}"

def finishFill (kind : FillKind) (failure : Option Failure) (report : FillReport) :
    Job FillOutcome := do
  let { placed, total, .. } := report
  match failure with
  | some e =>
    if placed = 0 then
      Job.notify (.ofFailure s!"Could not connect {kind.name}" e)
      return .failed e report
    else
      Job.notify (.ofFailure s!"{kind.name} fill stopped after {placed} of {total} fibers" e)
      return .partiallyConnected report
  | none =>
    if placed = total then
      Job.notify (.success s!"{placed} fibers connected")
      return .connected report
    else
      Job.notify (.info s!"{placed} of {total} fibers connected, not enough free ports")
      return .partiallyConnected report

def placeOne (target : FillTarget) (spot : PortSide) (fiber : LabelledFiber) : Attempt Unit :=
  if target.inEditor then assign target.structureId spot fiber
  else do
    let _ ← Attempt.call (.place ⟨target.structureId, spot, fiber.fiber.ref⟩)

/-- Places fibers on ports in order. A port whose merge group has had its fiber is passed over;
`filled` holds those groups. -/
def fillPorts (target : FillTarget) (side : Side) :
    List PortNumber → List LabelledFiber → List MergeGroupId → FillPass → Job FillPass
  | [], _, _, pass => return pass
  | _ :: _, [], _, pass => return pass
  | port :: ports, fiber :: fibers, filled, pass =>
    let group := Occupancy.groupOf target.rows ⟨port, side⟩
    if group.any (· ∈ filled) then fillPorts target side ports (fiber :: fibers) filled pass
    else do
      match ← (placeOne target ⟨port, side⟩ fiber).run with
      | .ok () =>
        fillPorts target side ports fibers (group.toList ++ filled) (pass.add target.structureId)
      | .error e => return { pass with failure := some e }

def fillTarget (target : FillTarget) (side : Side) (fibers : List LabelledFiber)
    (report : FillReport) : Job FillPass :=
  fillPorts target side target.ports fibers [] { report }

def localTarget (editor : Editor) (start : PortSide) : Option FillTarget :=
  editor.structureId.map fun structureId =>
    { structureId
      inEditor := true
      ports := Occupancy.available editor.ports editor.rows start.side start.port
      rows := editor.rows }

def remoteTarget (record : Structure) (side : Side) : Attempt FillTarget :=
  match record.componentType with
  | none => throw (.exposesNoPorts record.name)
  | some componentType => do
    let ports ← Attempt.call (.portsOf componentType)
    let rows ← Attempt.call (.rowsOf record.id)
    let free := match (Occupancy.sidePorts ports side).head? with
      | some lowest => Occupancy.available ports rows side lowest
      | none => []
    return { structureId := record.id, inEditor := false, ports := free, rows }

/-- The structures that a cable may spill into: those with ports behind the selected one, in slot
order, as many as the settings allow. -/
def laterStructures (settings : ClientSettings) (selected : Structure)
    (structures : List Structure) : List Structure :=
  if settings.spills then
    let later := sortBy (fun s t => decide (s.slotStart ≤ t.slotStart)) <|
      structures.filter fun s =>
        s.exposesPorts && decide (s.id ≠ selected.id) && decide (selected.slotStart < s.slotStart)
    match settings.maxStructures with
    | some count => later.take (count - 1)
    | none => later
  else []

/-- Goes on with the remaining fibers in later structures until one has no free port. -/
def fillLater (side : Side) :
    List Structure → List LabelledFiber → FillReport → Job (Option Failure × FillReport)
  | [], _, report => return (none, report)
  | record :: later, fibers, report =>
    if fibers.isEmpty then return (none, report)
    else do
      match ← (remoteTarget record side).run with
      | .error e => return (some e, report)
      | .ok target =>
        if target.ports.isEmpty then return (none, report)
        else
          let pass ← fillTarget target side fibers report
          match pass.failure with
          | some e => return (some e, pass.report)
          | none => fillLater side later (fibers.drop pass.placed) pass.report

def fillCable (first : FillTarget) (later : List Structure) (side : Side)
    (fibers : List LabelledFiber) (report : FillReport) : Job (Option Failure × FillReport) := do
  let pass ← fillTarget first side fibers report
  match pass.failure with
  | some e => return (some e, pass.report)
  | none => fillLater side later (fibers.drop pass.placed) pass.report

/-- The fibers of a cable, fetched when it carries none, by bundle and absolute number. -/
def cableFibers (cable : Cable) : Attempt (List Fiber) := do
  let fibers ← if cable.fibers.isEmpty then Attempt.call (.fibersOf cable.id)
    else pure cable.fibers
  return Fiber.sortByBundle fibers

def dropBundle (start : PortSide) (bundle : Bundle) : Job FillOutcome :=
  exclusively refuseFill do
    match localTarget (← Job.client).editor start with
    | none => rejectFill "No structure selected"
    | some target =>
      if target.ports.isEmpty then noFreePorts start
      else if bundle.fibers.isEmpty then rejectFill "The bundle has no fibers"
      else
        let fibers := (Fiber.sortByAbsolute bundle.fibers).map (⟨·, bundle.cableName⟩)
        let pass ← fillTarget target start.side fibers { total := fibers.length }
        finishFill .bundle pass.failure pass.report

/-- Puts the fibers of a cable on the free ports of the selected structure from a port upward, and
the rest on the structures behind it. -/
def dropCable (start : PortSide) (cable : Cable) (structures : List Structure) :
    Job FillOutcome :=
  exclusively refuseFill do
    let { settings, editor, .. } ← Job.client
    match editor.selected, localTarget editor start with
    | some selected, some target =>
      if target.ports.isEmpty then noFreePorts start
      else
        match ← (cableFibers cable).run with
        | .error e => finishFill .cable (some e) {}
        | .ok fibers =>
          if fibers.isEmpty then rejectFill s!"Cable {cable.name} has no fibers"
          else
            let fibers := fibers.map (⟨·, cable.name⟩)
            let later := laterStructures settings selected.record structures
            let (failure, report) ←
              fillCable target later start.side fibers { total := fibers.length }
            finishFill .cable failure report
    | _, _ => rejectFill "No structure selected"

end Client
end CrossConnect
