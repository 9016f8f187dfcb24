import CrossConnect.Client.Job

/-!
Selecting a structure for editing, and letting go of it. Both need the slot that fills hold too, so
the selection never changes while fibers are being placed.
-/
namespace CrossConnect.Client

/-- Runs a job while it holds the only slot for fills and selections, or the other job when the slot
is taken. -/
def exclusively {α : Type} (refused job : Job α) : Job α := do
  match (← Job.client).slot.begin? with
  | none => refused
  | some slot =>
    Job.update ({ · with slot })
    let value ← job
    Job.update fun client => { client with slot := client.slot.release }
    return value

def refuseSwitch : Job Bool := do
  Job.notify (.warning "Wait for the running fill to finish before switching structures")
  return false

def fetch (record : Structure) : Attempt (List Port × List Splice) :=
  match record.componentType with
  | none => return ([], [])
  | some componentType => do
    let ports ← Attempt.call (.portsOf componentType)
    let rows ← Attempt.call (.rowsOf record.id)
    return (ports, rows)

/-- Makes a structure the one under edit. When it cannot be fetched the old one stays. -/
def select (record : Structure) : Job Bool :=
  exclusively refuseSwitch do
    match ← (fetch record).run with
    | .ok (ports, rows) =>
      Job.apply (.load record ports rows)
      return true
    | .error e =>
      Job.notify (.ofFailure "Could not load structure" e)
      return false

def deselect : Job Bool :=
  exclusively refuseSwitch do
    Job.apply .unload
    return true

end CrossConnect.Client
