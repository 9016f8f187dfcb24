import CrossConnect.Client.Exchange
import CrossConnect.Proofs.Server

/-!
Jobs that run to their end with an authority nobody else calls. A postcondition is pushed backwards
through a job, call by call. What is known of the run as a whole, such as which calls fail, is known
of the authority's last state, and so of every state before it.
-/
namespace CrossConnect

namespace Job

variable {σ α β : Type} {authority : Authority σ} {final : σ → Prop}
  {post post' : α → Client → σ → Prop} {c : Client} {s : σ}

/-- Run to its end, the job leads to `post`, provided that the authority ends in a `final` state. -/
def Ends (authority : Authority σ) (final : σ → Prop) (job : Job α)
    (post : α → Client → σ → Prop) (c : Client) (s : σ) : Prop :=
  let (value, c, s) := job.run authority c s
  final s → post value c s

def BackwardClosed (authority : Authority σ) (final : σ → Prop) : Prop :=
  ∀ s c, final (authority s c).2 → final s

theorem BackwardClosed.progress (h : BackwardClosed authority final) (p : Progress α)
    (hfinal : final (p.run authority s).2.2) : final s := by
  induction p generalizing s with
  | done client value => exact hfinal
  | waits client call resume ih => exact h s call (ih _ client hfinal)

theorem BackwardClosed.run (h : BackwardClosed authority final) (job : Job α)
    (hfinal : final (job.run authority c s).2.2) : final s :=
  h.progress (job c) hfinal

theorem Ends.mono {job : Job α} (h : Ends authority final job post c s)
    (hpost : ∀ value c s, final s → post value c s → post' value c s) :
    Ends authority final job post' c s :=
  fun hfinal => hpost _ _ _ hfinal (h hfinal)

theorem Ends.and {job : Job α} (h : Ends authority final job post c s)
    (h' : Ends authority final job post' c s) :
    Ends authority final job (fun value c s => post value c s ∧ post' value c s) c s :=
  fun hfinal => ⟨h hfinal, h' hfinal⟩

theorem ends_pure {value : α} :
    Ends authority final (pure value) post c s ↔ (final s → post value c s) :=
  Iff.rfl

theorem ends_bind_client {next : Client → Job α} :
    Ends authority final (client >>= next) post c s ↔ Ends authority final (next c) post c s :=
  Iff.rfl

theorem ends_bind_update {f : Client → Client} {next : Unit → Job α} :
    Ends authority final (update f >>= next) post c s ↔
      Ends authority final (next ()) post (f c) s :=
  Iff.rfl

theorem ends_bind_apply {edit : Edit} {next : Unit → Job α} :
    Ends authority final (apply edit >>= next) post c s ↔
      Ends authority final (next ()) post (c.apply edit) s :=
  Iff.rfl

theorem ends_call {call : Call} {post : Except Failure call.Answer → Client → σ → Prop} :
    Ends authority final (Job.call call) post c s ↔
      (final (authority s call).2 → post (authority s call).1 c (authority s call).2) :=
  Iff.rfl

theorem ends_bind (h : BackwardClosed authority final) {job : Job α} {next : α → Job β}
    {post : β → Client → σ → Prop} :
    Ends authority final (job >>= next) post c s ↔
      Ends authority final job (fun value => Ends authority final (next value) post) c s := by
  simp only [Ends]
  rw [run_bind]
  dsimp only
  exact ⟨fun hpost _ => hpost, fun hpost hfinal => hpost (h.run _ hfinal) hfinal⟩

theorem ends_attempt (h : BackwardClosed authority final) {attempt : Attempt α}
    {next : α → Attempt β} {post : Except Failure β → Client → σ → Prop} :
    Ends authority final (attempt >>= next).run post c s ↔
      Ends authority final attempt.run (fun
        | .ok value, c, s => Ends authority final (next value).run post c s
        | .error e, c, s => post (.error e) c s) c s := by
  refine (ends_bind h).trans ⟨fun hends => hends.mono ?_, fun hends => hends.mono ?_⟩
  · rintro (e | value) c s hfinal hnext
    · exact hnext hfinal
    · exact hnext
  · rintro (e | value) c s hfinal hnext
    · exact fun _ => hnext
    · exact hnext

end Job

/-! ### Calls that can get lost -/

namespace Exchange

def isAccepted (e : Exchange) : Bool :=
  e.call.isWrite && e.succeeded

def isLostListing (e : Exchange) : Bool :=
  match e.call with
  | .rowsOf _ => !e.succeeded
  | _ => false

end Exchange

/-- Whatever was written could be fetched anew when that was tried next. -/
def Refetched (exchanges : List Exchange) : Prop :=
  exchanges.IsChain fun e f => e.isAccepted → f.isLostListing = false

instance (exchanges : List Exchange) : Decidable (Refetched exchanges) :=
  inferInstanceAs (Decidable (List.IsChain _ exchanges))

theorem Refetched.of_append {exchanges : List Exchange} {e : Exchange}
    (h : Refetched (exchanges ++ [e])) : Refetched exchanges :=
  List.IsChain.left_of_append h

theorem Refetched.last {exchanges : List Exchange} {e f : Exchange}
    (h : Refetched (exchanges ++ [e] ++ [f])) (he : e.isAccepted = true) :
    f.isLostListing = false := by
  have hlast := (List.isChain_append.1 h).2.2
  exact hlast e (by simp) f (by simp) he

namespace Server

variable {loses : List Exchange → Call → Option Failure} {line : Server × List Exchange}
  {call : Call}

theorem lossy_cases (loses : List Exchange → Call → Option Failure)
    (line : Server × List Exchange) (call : Call) :
    let out := Authority.lossy loses answer line call
    out.2.2 = line.2 ++ [⟨call, out.1⟩] ∧ out.2.1.limits = line.1.limits ∧
      ((∃ e, out.1 = .error e) ∧ out.2.1.registry = line.1.registry ∨
        ∃ a, out.1 = .ok a ∧
          line.1.registry.perform line.1.limits call = .ok (a, out.2.1.registry)) := by
  obtain ⟨s, exchanges⟩ := line
  dsimp only [Authority.lossy]
  cases loses exchanges call with
  | some failure => exact ⟨rfl, rfl, .inl ⟨⟨failure, rfl⟩, rfl⟩⟩
  | none => exact ⟨rfl, answer_cases s call⟩

theorem frame_lossy (loses : List Exchange → Call → Option Failure)
    (line : Server × List Exchange) (call : Call) :
    line.1.registry.Frame (Authority.lossy loses answer line call).2.1.registry := by
  obtain ⟨-, -, ⟨-, hsame⟩ | ⟨a, -, hperform⟩⟩ := lossy_cases loses line call
  · rw [hsame]
    exact .refl _
  · exact Registry.frame_perform hperform

theorem backwardClosed_lossy (loses : List Exchange → Call → Option Failure) :
    Job.BackwardClosed (Authority.lossy loses answer) fun line => line.1.registry.ids.Distinct :=
  fun line call hids => (frame_lossy loses line call).distinct hids

theorem ends_call {final : Server × List Exchange → Prop} {c : Client}
    {post : Except Failure call.Answer → Client → Server × List Exchange → Prop}
    (herror : ∀ e line', final line' → line'.2 = line.2 ++ [⟨call, .error e⟩] →
      line'.1.limits = line.1.limits → line'.1.registry = line.1.registry → post (.error e) c line')
    (hok : ∀ a line', final line' → line'.2 = line.2 ++ [⟨call, .ok a⟩] →
      line'.1.limits = line.1.limits →
      line.1.registry.perform line.1.limits call = .ok (a, line'.1.registry) →
      post (.ok a) c line') :
    Job.Ends (Authority.lossy loses answer) final (Attempt.call call).run post c line := by
  rw [Attempt.call, ExceptT.run_mk, Job.ends_call]
  intro hfinal
  obtain ⟨hrecord, hlimits, ⟨⟨e, herr⟩, hsame⟩ | ⟨a, hans, hperform⟩⟩ := lossy_cases loses line call
  · rw [herr] at hrecord ⊢
    exact herror e _ hfinal hrecord hlimits hsame
  · rw [hans] at hrecord ⊢
    exact hok a _ hfinal hrecord hlimits hperform

end Server
end CrossConnect
