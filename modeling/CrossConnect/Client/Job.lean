import CrossConnect.Editor
import CrossConnect.Notice
import CrossConnect.Server

/-!
The client's state, and jobs on it. A job runs without interruption until it ends or waits for the
answer to a call; it goes on from the state that it finds when the answer comes, which another job
may have changed meanwhile.
-/
namespace CrossConnect

/-- The single slot for work that must not overlap: a second taker is refused, never queued. -/
structure Slot where
  taken : Bool := false
deriving DecidableEq, Repr

namespace Slot

def begin? (slot : Slot) : Option Slot :=
  if slot.taken then none else some { taken := true }

def release (_ : Slot) : Slot :=
  { taken := false }

end Slot

structure Client where
  settings : ClientSettings
  editor : Editor := {}
  notices : NoticeLog
  slot : Slot := {}
  ids : IdSource

namespace Client

def ofSettings (settings : ClientSettings) (ids : IdSource) : Client :=
  { settings, notices := .empty settings.maxNotices, ids }

def apply (c : Client) (edit : Edit) : Client :=
  let (editor, ids) := c.editor.apply c.ids edit
  { c with editor, ids }

def notify (c : Client) (notice : Notice) : Client :=
  { c with notices := c.notices.push notice }

end Client

/-- How far a job has got: to its end, or to a call whose answer it waits for. -/
inductive Progress (α : Type) : Type
  | done (client : Client) (value : α)
  | waits (client : Client) (call : Call)
      (resume : Except Failure call.Answer → Client → Progress α)

namespace Progress

def bind {α β : Type} : Progress α → (α → Client → Progress β) → Progress β
  | done client value, next => next value client
  | waits client call resume, next =>
    waits client call fun answer client => (resume answer client).bind next

@[simp] theorem bind_done {α : Type} (p : Progress α) :
    (p.bind fun value client => .done client value) = p := by
  induction p with
  | done client value => rfl
  | waits client call resume ih => simp only [bind, ih]

theorem bind_assoc {α β γ : Type} (p : Progress α) (f : α → Client → Progress β)
    (g : β → Client → Progress γ) :
    (p.bind f).bind g = p.bind fun value client => (f value client).bind g := by
  induction p with
  | done client value => rfl
  | waits client call resume ih => simp only [bind, ih]

end Progress

def Job (α : Type) : Type :=
  Client → Progress α

namespace Job

instance : Monad Job where
  pure value := fun client => .done client value
  bind job next := fun client => (job client).bind next

instance : LawfulMonad Job :=
  .mk' Job (fun job => funext fun client => Progress.bind_done (job client)) (fun _ _ => rfl)
    (fun job f g => funext fun client => Progress.bind_assoc (job client) f g)

def client : Job Client :=
  fun client => .done client client

def update (f : Client → Client) : Job Unit :=
  fun client => .done (f client) ()

def apply (edit : Edit) : Job Unit :=
  update (·.apply edit)

def notify (notice : Notice) : Job Unit :=
  update (·.notify notice)

def call (c : Call) : Job (Except Failure c.Answer) :=
  fun client => .waits client c fun answer client => .done client answer

end Job

abbrev Attempt (α : Type) : Type :=
  ExceptT Failure Job α

def Attempt.call (c : Call) : Attempt c.Answer :=
  .mk (Job.call c)

/-- Anything that answers calls one at a time, from a state of its own. -/
abbrev Authority (σ : Type) : Type :=
  σ → (c : Call) → Except Failure c.Answer × σ

def Progress.run {σ α : Type} (authority : Authority σ) : Progress α → σ → α × Client × σ
  | done client value, s => (value, client, s)
  | waits client call resume, s =>
    let (answer, s) := authority s call
    (resume answer client).run authority s

theorem Progress.run_bind {σ α β : Type} (authority : Authority σ) (p : Progress α)
    (f : α → Client → Progress β) (s : σ) :
    (p.bind f).run authority s =
      let (value, client, s) := p.run authority s
      (f value client).run authority s := by
  induction p generalizing s with
  | done client value => rfl
  | waits client call resume ih => simp only [bind, run, ih]

namespace Job

def run {σ α : Type} (job : Job α) (authority : Authority σ) (client : Client) (s : σ) :
    α × Client × σ :=
  (job client).run authority s

section run

variable {σ α β : Type} (authority : Authority σ) (c : Client) (s : σ)

@[simp] theorem run_pure (value : α) : (pure value : Job α).run authority c s = (value, c, s) :=
  rfl

@[simp] theorem run_bind (job : Job α) (f : α → Job β) :
    (job >>= f).run authority c s =
      let (value, c, s) := job.run authority c s
      (f value).run authority c s :=
  Progress.run_bind authority (job c) f s

@[simp] theorem run_map (f : α → β) (job : Job α) :
    (f <$> job).run authority c s =
      let (value, c, s) := job.run authority c s
      (f value, c, s) := by
  rw [map_eq_pure_bind]
  exact run_bind authority c s job fun value => pure (f value)

@[simp] theorem run_client : client.run authority c s = (c, c, s) :=
  rfl

@[simp] theorem run_update (f : Client → Client) : (update f).run authority c s = ((), f c, s) :=
  rfl

@[simp] theorem run_apply (edit : Edit) :
    (apply edit).run authority c s = ((), c.apply edit, s) :=
  rfl

@[simp] theorem run_notify (notice : Notice) :
    (notify notice).run authority c s = ((), c.notify notice, s) :=
  rfl

@[simp] theorem run_call (request : Call) :
    (call request).run authority c s =
      ((authority s request).1, c, (authority s request).2) :=
  rfl

end run
end Job
end CrossConnect
