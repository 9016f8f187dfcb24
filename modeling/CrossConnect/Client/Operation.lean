import CrossConnect.Client.Merge

/-!
One entry for everything that is dropped onto a port, and everything that a user can do with the
client, as data.
-/
namespace CrossConnect

namespace Client

def rejectDrop (reason : String) : Job DropOutcome := do
  Job.notify (.warning reason)
  return .rejected reason

/-- Sends a drop where it belongs; `structures` are those that a cable may spill into. -/
def dropOnPort (spot : PortSide) (drop : Drop) (structures : List Structure) :
    Job DropOutcome := do
  if (← Job.client).editor.structureId.isNone then return .rejected "no structure selected"
  match drop with
  | .fiber fiber => return .fiber (← dropFiber spot fiber)
  | .bundle bundle => return .fill (← dropBundle spot bundle)
  | .cable cable => return .fill (← dropCable spot cable structures)
  | .mounted _ | .component _ => rejectDrop s!"a {drop.kind} cannot be dropped on a port"

end Client

inductive Operation
  | select (record : Structure)
  | deselect
  | dropFiber (spot : PortSide) (fiber : LabelledFiber)
  | clearPort (spot : PortSide)
  | moveFiber (source target : PortSide) (fiber : LabelledFiber)
  | dropBundle (start : PortSide) (bundle : Bundle)
  | dropCable (start : PortSide) (cable : Cable) (structures : List Structure)
  | dropOnPort (spot : PortSide) (drop : Drop) (structures : List Structure)
  | toggleMergeMode
  | togglePort (spot : PortSide)
  | mergeSelected
  | unmerge (group : MergeGroupId) (ports : Option (List PortNumber))
  | dropOnGroup (group : MergeGroupId) (side : Side) (drop : Drop)
deriving DecidableEq, Repr

namespace Operation

def job : Operation → Job Outcome
  | select record => .flag <$> Client.select record
  | deselect => .flag <$> Client.deselect
  | dropFiber spot fiber => .flag <$> Client.dropFiber spot fiber
  | clearPort spot => .flag <$> Client.clearPort spot
  | moveFiber source target fiber => .flag <$> Client.moveFiber source target fiber
  | dropBundle start bundle => .fill <$> Client.dropBundle start bundle
  | dropCable start cable structures => .fill <$> Client.dropCable start cable structures
  | dropOnPort spot drop structures => .drop <$> Client.dropOnPort spot drop structures
  | toggleMergeMode => .flag <$> Client.toggleMergeMode
  | togglePort spot => .flag <$> Client.togglePort spot
  | mergeSelected => .flag <$> Client.mergeSelected
  | unmerge group ports => .flag <$> Client.unmerge group ports
  | dropOnGroup group side drop => .flag <$> Client.dropOnGroup group side drop

end Operation
end CrossConnect
