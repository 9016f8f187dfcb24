import CrossConnect.Client.Job

/-!
Keeping a record of what an authority is asked and answers, and letting some calls fail before they
reach it.
-/
namespace CrossConnect

structure Exchange where
  call : Call
  answer : Except Failure call.Answer

namespace Exchange

def failure? (e : Exchange) : Option Failure :=
  match e.answer with
  | .ok _ => none
  | .error failure => some failure

def succeeded (e : Exchange) : Bool :=
  e.failure?.isNone

end Exchange

namespace Authority

variable {σ : Type}

/-- An authority that cannot always be reached. `loses` sees the exchanges so far and the next call,
and names the failure of a call that is lost; every exchange is recorded, latest last. -/
def lossy (loses : List Exchange → Call → Option Failure) (authority : Authority σ) :
    Authority (σ × List Exchange) :=
  fun (s, exchanges) call =>
    let (answer, s) : Except Failure call.Answer × σ :=
      match loses exchanges call with
      | some failure => (.error failure, s)
      | none => authority s call
    (answer, s, exchanges ++ [⟨call, answer⟩])

def recorded (authority : Authority σ) : Authority (σ × List Exchange) :=
  authority.lossy fun _ _ => none

end Authority
end CrossConnect
