import CrossConnect.Failure
import CrossConnect.Node.Port

/-!
What fills, drops and merge queries report.
-/
namespace CrossConnect

structure FillReport where
  placed : Nat := 0
  total : Nat := 0
  structures : List StructureId := []
deriving DecidableEq, Repr

def FillReport.add (report : FillReport) (id : StructureId) : FillReport :=
  { report with
    placed := report.placed + 1
    structures :=
      if report.structures.getLast? = some id then report.structures
      else report.structures ++ [id] }

inductive FillOutcome
  | connected (report : FillReport)
  | partiallyConnected (report : FillReport)
  | failed (failure : Failure) (report : FillReport)
  | rejected (reason : String)
deriving DecidableEq, Repr, Inhabited

namespace FillOutcome

def isSuccess : FillOutcome → Bool
  | connected _ | partiallyConnected _ => true
  | failed _ _ | rejected _ => false

def report? : FillOutcome → Option FillReport
  | connected report | partiallyConnected report | failed _ report => some report
  | rejected _ => none

def status : FillOutcome → String
  | connected _ => "connected"
  | partiallyConnected _ => "partially_connected"
  | failed _ _ => "failed"
  | rejected _ => "rejected"

end FillOutcome

inductive DropOutcome
  | fiber (connected : Bool)
  | fill (outcome : FillOutcome)
  | rejected (reason : String)
deriving DecidableEq, Repr, Inhabited

def DropOutcome.isSuccess : DropOutcome → Bool
  | fiber connected => connected
  | fill outcome => outcome.isSuccess
  | rejected _ => false

inductive Outcome
  | flag (value : Bool)
  | fill (outcome : FillOutcome)
  | drop (outcome : DropOutcome)
deriving DecidableEq, Repr, Inhabited

structure GroupView where
  group : MergeGroupId
  ports : List PortNumber
  size : UInt64
  label : String
deriving DecidableEq, Repr

end CrossConnect
