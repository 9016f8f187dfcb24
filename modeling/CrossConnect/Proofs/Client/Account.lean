import CrossConnect.Client.Assign
import CrossConnect.Proofs.Client.Run

/-!
The account of a job that runs to its end: what it ends with, its exchanges, and the notices it
pushes. The log for notices is bounded, so it does not show what was pushed; but no job looks at it,
and so the account is the same whatever the log holds.
-/
namespace CrossConnect

def Client.withLog (c : Client) (log : NoticeLog) : Client :=
  { c with notices := log }

/-- How a job ends, what it exchanged with the authority and what it told the user. -/
structure Account (α σ : Type) where
  value : α
  client : Client
  authority : σ
  exchanges : List Exchange := []
  notices : List Notice := []

def Account.followedBy {α β σ : Type} (a : Account α σ) (b : Account β σ) : Account β σ :=
  { b with exchanges := a.exchanges ++ b.exchanges, notices := a.notices ++ b.notices }

namespace Job

variable {σ α β : Type} {authority : Authority σ} {c : Client} {s : σ}

/-- Run to its end, the job gives an account as described, with any log and after any exchanges. -/
def Tells (authority : Authority σ) (job : Job α) (post : Account α σ → Prop) (c : Client) (s : σ) :
    Prop :=
  ∃ a : Account α σ, post a ∧ ∀ log past,
    job.run authority.recorded (c.withLog log) (s, past) =
      (a.value, a.client.withLog (a.notices.foldl NoticeLog.push log), a.authority,
        past ++ a.exchanges)

theorem Tells.mono {job : Job α} {post post' : Account α σ → Prop}
    (h : job.Tells authority post c s) (hpost : ∀ a, post a → post' a) :
    job.Tells authority post' c s := by
  obtain ⟨a, ha, hrun⟩ := h
  exact ⟨a, hpost a ha, hrun⟩

theorem Tells.and {job : Job α} {post : Account α σ → Prop} {p : α → List Exchange → Prop}
    (h : job.Tells authority post c s)
    (h' : job.Tells authority (fun a => p a.value a.exchanges) c s) :
    job.Tells authority (fun a => post a ∧ p a.value a.exchanges) c s := by
  obtain ⟨a, ha, hrun⟩ := h
  obtain ⟨b, hb, hrun'⟩ := h'
  have heq := (hrun (.empty 0) []).symm.trans (hrun' (.empty 0) [])
  simp only [Prod.mk.injEq, List.nil_append] at heq
  obtain ⟨hvalue, -, -, hexchanges⟩ := heq
  exact ⟨a, ⟨ha, by rw [hvalue, hexchanges]; exact hb⟩, hrun⟩

theorem tells_pure {value : α} {post : Account α σ → Prop}
    (h : post { value, client := c, authority := s }) :
    (pure value : Job α).Tells authority post c s :=
  ⟨_, h, fun log past => by simp⟩

theorem tells_client {next : Client → Job α} {post : Account α σ → Prop}
    (hblind : ∀ log, next (c.withLog log) = next c) (h : (next c).Tells authority post c s) :
    (client >>= next).Tells authority post c s := by
  obtain ⟨a, ha, hrun⟩ := h
  refine ⟨a, ha, fun log past => ?_⟩
  rw [run_bind, run_client]
  dsimp only
  rw [hblind, hrun]

theorem tells_update {f : Client → Client} {post : Account Unit σ → Prop}
    (hblind : ∀ log, f (c.withLog log) = (f c).withLog log)
    (h : post { value := (), client := f c, authority := s }) :
    (update f).Tells authority post c s :=
  ⟨_, h, fun log past => by rw [run_update, hblind]; simp⟩

theorem tells_report {notice : Notice} {value : α} {post : Account α σ → Prop}
    (h : post { value, client := c, authority := s, notices := [notice] }) :
    (do notify notice; return value : Job α).Tells authority post c s :=
  ⟨_, h, fun log past => by simp [Client.notify, Client.withLog]⟩

theorem tells_call {call : Call} {post : Account (Except Failure call.Answer) σ → Prop}
    (h : post
      { value := (authority s call).1, client := c, authority := (authority s call).2
        exchanges := [⟨call, (authority s call).1⟩] }) :
    (Attempt.call call).run.Tells authority post c s :=
  ⟨_, h, fun _ _ => rfl⟩

theorem Tells.bind {job : Job α} {next : α → Job β} {mid : Account α σ → Prop}
    {post : Account β σ → Prop} (h : job.Tells authority mid c s)
    (hnext : ∀ a, mid a →
      (next a.value).Tells authority (fun b => post (a.followedBy b)) a.client a.authority) :
    (job >>= next).Tells authority post c s := by
  obtain ⟨a, ha, hrun⟩ := h
  obtain ⟨b, hb, hrun'⟩ := hnext a ha
  refine ⟨a.followedBy b, hb, fun log past => ?_⟩
  rw [run_bind, hrun]
  dsimp only
  rw [hrun', Account.followedBy, List.foldl_append, List.append_assoc]

theorem Tells.map {job : Job α} {f : α → β} {post : Account β σ → Prop}
    (h : job.Tells authority (fun a => post { a with value := f a.value }) c s) :
    (f <$> job).Tells authority post c s := by
  obtain ⟨a, ha, hrun⟩ := h
  refine ⟨_, ha, fun log past => ?_⟩
  rw [run_map, hrun]

theorem Tells.attempt {attempt : Attempt α} {next : α → Attempt β}
    {mid : Account (Except Failure α) σ → Prop} {post : Account (Except Failure β) σ → Prop}
    (h : attempt.run.Tells authority mid c s)
    (hok : ∀ a value, mid a → a.value = .ok value → (next value).run.Tells authority
      (fun b => post (a.followedBy b)) a.client a.authority)
    (herror : ∀ a e, mid a → a.value = .error e → post { a with value := .error e }) :
    (attempt >>= next).run.Tells authority post c s := by
  refine Tells.bind h fun a ha => ?_
  cases hvalue : a.value with
  | ok value => exact hok a value ha hvalue
  | error e =>
    refine tells_pure ?_
    have h := herror a e ha hvalue
    simpa [Account.followedBy] using h

theorem tells_optimistically {id : StructureId} {edit : Edit} {remote : Attempt Settlement}
    {mid : Account (Except Failure Settlement) σ → Prop}
    {post : Account (Except Failure Unit) σ → Prop}
    (h : remote.run.Tells authority mid (c.apply edit) s)
    (hok : ∀ a settlement, mid a → a.value = .ok settlement →
      post { a with value := .ok (), client := a.client.apply (settlement.edit id) })
    (herror : ∀ a e, mid a → a.value = .error e →
      post { a with value := .error e, client := a.client.apply (.replaceRows id c.editor.rows) }) :
    (Client.optimistically id edit remote).run.Tells authority post c s := by
  refine tells_client (fun _ => rfl) ?_
  refine Tells.bind (tells_update (fun _ => rfl) (Eq.refl _)) fun opened hopened => ?_
  subst hopened
  refine h.bind fun a ha => ?_
  have hpost : ∀ b : Account (Except Failure Unit) σ, b.exchanges = [] → b.notices = [] →
      post { b with exchanges := a.exchanges, notices := a.notices } →
      post (Account.followedBy { value := (), client := c.apply edit, authority := s }
        (a.followedBy b)) := by
    rintro ⟨value, client, authority, _, _⟩ rfl rfl hb
    simpa [Account.followedBy] using hb
  cases hvalue : a.value with
  | ok settlement =>
    exact Tells.bind (tells_update (fun _ => rfl) (Eq.refl _)) fun b hb => hb ▸ tells_pure
      (hpost _ rfl rfl (hok a settlement ha hvalue))
  | error e =>
    exact Tells.bind (tells_update (fun _ => rfl) (Eq.refl _)) fun b hb => hb ▸ tells_pure
      (hpost _ rfl rfl (herror a e ha hvalue))

end Job
end CrossConnect
