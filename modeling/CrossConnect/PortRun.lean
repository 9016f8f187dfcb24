import CrossConnect.Failure
import CrossConnect.Node.Port
import CrossConnect.Sorting

/-!
Runs of neighbouring port numbers, the only shape a merge group may have.
-/
namespace CrossConnect

namespace Failure

def tooFewPorts : Failure :=
  ⟨.validation, "a merge group needs at least two ports"⟩

def tooManyPorts (limit : Nat) : Failure :=
  ⟨.validation, s!"a merge group holds at most {limit} ports"⟩

def brokenRun : Failure :=
  ⟨.validation, "merged ports must form a contiguous run"⟩

end Failure

namespace PortRun

def isContiguous : List PortNumber → Bool
  | p :: q :: ports => decide (p.toNat + 1 = q.toNat) && isContiguous (q :: ports)
  | _ => true

/-- The ports of a future merge group in ascending order, if there are at least two and at most
`limit` of them and they are neighbours. -/
def validate (ports : List PortNumber) (limit : Option Nat) : Except Failure (List PortNumber) :=
  if ports.length < 2 then .error .tooFewPorts
  else match limit.filter (· < ports.length) with
    | some limit => .error (.tooManyPorts limit)
    | none =>
      let sorted := sortNumbers ports
      if isContiguous sorted then .ok sorted else .error .brokenRun

def label (ports : List PortNumber) : String :=
  match ports.head?, ports.getLast? with
  | some first, some last => if first = last then s!"{first}" else s!"{first}-{last}"
  | _, _ => ""

end PortRun
end CrossConnect
