import CrossConnect.Client.Schedule
import Mathlib

/-!
Operations that change one port side by a single write: an edit, the write, a listing if the port is
merged, and the settlement.
-/
namespace CrossConnect

theorem Attempt.run_bind {α β : Type} (attempt : Attempt α) (next : α → Attempt β) (c : Client) :
    (attempt >>= next).run c = Progress.bind (attempt.run c) fun answer c =>
      match answer with
      | .ok value => (next value).run c
      | .error e => .done c (.error e) := by
  refine congrArg (Progress.bind (attempt.run c)) (funext fun answer => ?_)
  cases answer <;> rfl

theorem Client.checkMerged_run (spot : PortSide) (c : Client) :
    (checkMerged spot).run c = .done c ((requirePort c.editor spot).map fun _ =>
      (Occupancy.groupOf c.editor.rows spot).isSome) :=
  rfl

theorem Job.client_bind {α : Type} (next : Client → Job α) (c : Client) :
    (Job.client >>= next) c = next c c :=
  rfl

inductive SingleStep
  | drop (spot : PortSide) (fiber : LabelledFiber)
  | clear (spot : PortSide)
deriving DecidableEq, Repr

namespace SingleStep

def operation : SingleStep → Operation
  | drop spot fiber => .dropFiber spot fiber
  | clear spot => .clearPort spot

def spot : SingleStep → PortSide
  | drop spot _ | clear spot => spot

def edit (id : StructureId) : SingleStep → Edit
  | drop spot fiber => .place id spot fiber.termination
  | clear spot => .vacate id spot

theorem scope_edit (step : SingleStep) (id : StructureId) : (step.edit id).scope = some id := by
  cases step <;> rfl

def write (id : StructureId) : SingleStep → Call
  | drop spot fiber => .place ⟨id, spot, fiber.fiber.ref⟩
  | clear spot => .clear id spot

def settlement (id : StructureId) : (step : SingleStep) → (step.write id).Answer → Settlement
  | drop _ _, row => .row row
  | clear _, _ => .prune

def notice : SingleStep → Except Failure Unit → Notice
  | drop spot fiber, .ok () => .success s!"Fiber {fiber.fiber.absolute} connected to port {spot}"
  | clear spot, .ok () => .success s!"Port {spot} cleared"
  | drop _ _, .error e => .ofFailure "Could not connect fiber" e
  | clear _, .error e => .ofFailure "Could not clear port" e

def attempt (id : StructureId) : SingleStep → Attempt Unit
  | drop spot fiber => Client.assign id spot fiber
  | clear spot => Client.vacate id spot

def remote (step : SingleStep) (id : StructureId) (merged : Bool) : Attempt Settlement := do
  let answer ← Attempt.call (step.write id)
  Client.settleMerged id merged (step.settlement id answer)

theorem attempt_eq (step : SingleStep) (id : StructureId) :
    step.attempt id = (Client.checkMerged step.spot >>= fun merged =>
      Client.optimistically id (step.edit id) (step.remote id merged)) := by
  cases step <;> rfl

theorem job_selected (step : SingleStep) (c : Client) {id : StructureId}
    (hid : c.editor.structureId = some id) :
    step.operation.job c = ((step.attempt id).run c).bind fun answer c =>
      .done (c.notify (step.notice answer)) (.flag answer.isOk) := by
  cases step with
  | drop spot fiber =>
    change (Client.dropFiber spot fiber c).bind _ = _
    rw [Client.dropFiber, Job.client_bind, hid]
    refine (Progress.bind_assoc ..).trans ?_
    refine congrArg (Progress.bind _) (funext fun answer => ?_)
    cases answer <;> rfl
  | clear spot =>
    change (Client.clearPort spot c).bind _ = _
    rw [Client.clearPort, Job.client_bind, hid]
    refine (Progress.bind_assoc ..).trans ?_
    refine congrArg (Progress.bind _) (funext fun answer => ?_)
    cases answer <;> rfl

def settle (step : SingleStep) (id : StructureId) (before : List Splice) :
    Except Failure Settlement → Client → Client
  | .ok settlement, c => (c.apply (settlement.edit id)).notify (step.notice (.ok ()))
  | .error e, c => (c.apply (.replaceRows id before)).notify (step.notice (.error e))

def relisted (step : SingleStep) (id : StructureId) (before : List Splice)
    (answer : Except Failure (List Splice)) (c : Client) : Progress Outcome :=
  .done (step.settle id before (answer.map .listing) c) (.flag answer.isOk)

def resume (step : SingleStep) (id : StructureId) (merged : Bool) (before : List Splice) :
    Except Failure (step.write id).Answer → Client → Progress Outcome
  | .error e, c => .done (step.settle id before (.error e) c) (.flag false)
  | .ok a, c =>
    if merged then .waits c (.rowsOf id) (step.relisted id before)
    else .done (step.settle id before (.ok (step.settlement id a)) c) (.flag true)

theorem job_eq (step : SingleStep) (c : Client) {id : StructureId}
    (hid : c.editor.structureId = some id) :
    step.operation.job c =
      match Client.requirePort c.editor step.spot with
      | .error e => .done (c.notify (step.notice (.error e))) (.flag false)
      | .ok _ => .waits (c.apply (step.edit id)) (step.write id)
          (step.resume id (Occupancy.groupOf c.editor.rows step.spot).isSome c.editor.rows) := by
  rw [job_selected step c hid, attempt_eq, Attempt.run_bind, Client.checkMerged_run]
  cases Client.requirePort c.editor step.spot with
  | error e => rfl
  | ok _ =>
    dsimp only [Except.map]
    generalize (Occupancy.groupOf c.editor.rows step.spot).isSome = merged
    refine congrArg (Progress.waits _ _) (funext fun answer => funext fun c' => ?_)
    rcases answer with e | answer
    · rfl
    · cases merged with
      | false => rfl
      | true =>
        refine congrArg (Progress.waits _ _) (funext fun listed => funext fun c'' => ?_)
        cases listed <;> rfl

end SingleStep

end CrossConnect
