import CrossConnect.Client.Operation

/-!
Operations of one client that overlap. A schedule is a list of events: an operation starts and runs
up to its first call, the authority serves a call or the call is lost on its way there, and an
answer reaches its operation, which runs up to its next call. Nothing else happens in between.
-/
namespace CrossConnect

inductive Stage
  | sent (call : Call) (resume : Except Failure call.Answer → Client → Progress Outcome)
  | answered (call : Call) (answer : Except Failure call.Answer)
      (resume : Except Failure call.Answer → Client → Progress Outcome)
  | ended (outcome : Outcome)

namespace Stage

def ofProgress : Progress Outcome → Stage × Client
  | .done client outcome => (ended outcome, client)
  | .waits client call resume => (sent call resume, client)

def outcome? : Stage → Option Outcome
  | ended outcome => some outcome
  | _ => none

def call? : Stage → Option Call
  | sent call _ | answered call _ _ => some call
  | ended _ => none

end Stage

structure Activity where
  operation : Operation
  stage : Stage

structure Scene (σ : Type) where
  client : Client
  authority : σ
  activities : List Activity := []

inductive Event
  | start (operation : Operation)
  | serve (index : Nat)
  | lose (index : Nat) (failure : Failure)
  | deliver (index : Nat)
deriving DecidableEq, Repr

namespace Scene

variable {σ : Type}

def advance (scene : Scene σ) (index : Nat) (stage : Stage) : Scene σ :=
  { scene with activities := scene.activities.modify index ({ · with stage }) }

def stage? (scene : Scene σ) (index : Nat) : Option Stage :=
  scene.activities[index]?.map (·.stage)

/-- What one event does; an event that does not fit its operation does nothing. -/
def step (authority : Authority σ) (scene : Scene σ) : Event → Scene σ
  | .start operation =>
    let (stage, client) := Stage.ofProgress (operation.job scene.client)
    { scene with client, activities := scene.activities ++ [{ operation, stage }] }
  | .serve index =>
    match scene.stage? index with
    | some (.sent call resume) =>
      let (answer, s) := authority scene.authority call
      { scene with authority := s }.advance index (.answered call answer resume)
    | _ => scene
  | .lose index failure =>
    match scene.stage? index with
    | some (.sent call resume) => scene.advance index (.answered call (.error failure) resume)
    | _ => scene
  | .deliver index =>
    match scene.stage? index with
    | some (.answered _ answer resume) =>
      let (stage, client) := Stage.ofProgress (resume answer scene.client)
      { scene with client }.advance index stage
    | _ => scene

def run (authority : Authority σ) (scene : Scene σ) (schedule : List Event) : Scene σ :=
  schedule.foldl (step authority) scene

end Scene
end CrossConnect
