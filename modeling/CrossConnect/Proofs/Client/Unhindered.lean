import CrossConnect.Proofs.Client.Selection
import CrossConnect.Proofs.Client.SingleStep

/-!
Writes that nothing gets in the way of. An editor that mirrors the registry sends one write, no call
fails, and the editor mirrors the registry that the write makes. How the answer is settled, by the
authority's row, by dropping empty rows or by a new listing, does not show afterwards.
-/
namespace CrossConnect

open Occupancy

variable {r r' : Registry} {id : StructureId} {editor editor' : Editor} {limits : Limits}

theorem Editor.structureId_eq_some (h : editor.structureId = some id) :
    ∃ selected, editor.selected = some selected ∧ selected.record.id = id :=
  Option.map_eq_some_iff.1 h

theorem Editor.Mirrors.known (h : editor.Mirrors r id) :
    ∃ record, r.structures.find? id = some record := by
  obtain ⟨record, hrecord, -⟩ := h.ports
  exact ⟨record, hrecord⟩

theorem Editor.Mirrors.relisted (h : editor.Mirrors r id) (hframe : r.Frame r')
    (hselected : editor'.selected = editor.selected) (hrows : editor'.rows = r'.listing id) :
    editor'.Mirrors r' id := by
  obtain ⟨record, hrecord, hports⟩ := h.ports
  refine ⟨?_, ⟨record, hframe.structures ▸ hrecord, ?_⟩, hrows⟩
  · rw [← h.structureId, Editor.structureId, Editor.structureId, hselected]
  · have hsame : editor'.ports = editor.ports := by
      simp only [Editor.ports, hselected]
    rw [hsame, hports, Registry.portsAt, Registry.portsAt, hframe.componentTypes]

theorem Editor.Mirrors.requirePort {spot : PortSide} (h : editor.Mirrors r id)
    (hport : r.HasPort id spot) : Client.requirePort editor spot = .ok () := by
  obtain ⟨record, hrecord, hports⟩ := h.ports
  rw [Client.requirePort_eq_ok, hports, Registry.mem_sidePorts_iff hrecord]
  exact hport

theorem Editor.Mirrors.aligned {c : Client} {s : Server} (h : c.editor.Mirrors s.registry id)
    (hs : s.Sound) (exchanges : List Exchange) : ∃ selected, selected.record.id = id ∧
      Aligned s.registry.structures (some selected) c (s, exchanges) := by
  obtain ⟨selected, hselected, hid⟩ := Editor.structureId_eq_some h.structureId
  refine ⟨selected, hid, ⟨hs, ?_⟩, rfl, hselected⟩
  rw [h.structureId]
  exact h.rows

/-! ### Calls -/

/-- The second authority answers as the first one would, but for what is in its registry. -/
structure Server.SameTerms (s s' : Server) : Prop where
  limits : s'.limits = s.limits
  failpoints : s'.failpoints = s.failpoints

namespace Server.SameTerms

variable {s s' s'' : Server}

theorem trans (h : s.SameTerms s') (h' : s'.SameTerms s'') : s.SameTerms s'' :=
  ⟨h'.limits.trans h.limits, h'.failpoints.trans h.failpoints⟩

theorem failpointFor (h : s.SameTerms s') (call : Call) :
    s'.failpointFor call = s.failpointFor call := by
  simp only [Server.failpointFor, h.failpoints]

end Server.SameTerms

theorem Server.failpointFor_eq_none {s : Server} (h : s.failpoints = []) (call : Call) :
    s.failpointFor call = none := by
  simp [failpointFor, h]

namespace Client

variable {s : Server} {c : Client} (exchanges : List Exchange)

theorem run_call_ok {α : Type} {call : Call} {a : call.Answer} (hfree : s.failpointFor call = none)
    (hperform : s.registry.perform s.limits call = .ok (a, r)) (c : Client)
    (next : call.Answer → Attempt α) : ∃ s', s'.registry = r ∧ s.SameTerms s' ∧
      (Attempt.call call >>= next).run.run (Authority.recorded Server.answer) c (s, exchanges) =
        (next a).run.run (Authority.recorded Server.answer) c
          (s', exchanges ++ [⟨call, .ok a⟩]) := by
  refine ⟨{ s with registry := r, log := s.log ++ [call] }, rfl, ⟨rfl, rfl⟩, ?_⟩
  rw [ExceptT.run_bind, Job.run_bind, Attempt.call, ExceptT.run_mk, Job.run_call,
    Server.recorded_eq exchanges (Server.answer_ok hfree hperform)]

theorem run_listing (hfree : s.failpointFor (.rowsOf id) = none)
    (hknown : ∃ record, s.registry.structures.find? id = some record) (c : Client) :
    ∃ s', s'.registry = s.registry ∧ s.SameTerms s' ∧
      (Settlement.listing <$> Attempt.call (.rowsOf id) : Attempt Settlement).run.run
          (Authority.recorded Server.answer) c (s, exchanges) =
        (.ok (.listing (s.registry.listing id)), c, s',
          exchanges ++ [⟨.rowsOf id, .ok (s.registry.listing id)⟩]) := by
  obtain ⟨record, hrecord⟩ := hknown
  have hperform : s.registry.perform s.limits (.rowsOf id) =
      .ok (s.registry.listing id, s.registry) := by
    simp only [Registry.perform, Registry.rowsOf, Registry.structure?, hrecord]
    rfl
  rw [map_eq_pure_bind]
  exact run_call_ok exchanges hfree hperform c fun rows => pure (Settlement.listing rows)

theorem run_optimistically {edit : Edit} {remote : Attempt Settlement} {settlement : Settlement}
    {line line' : Server × List Exchange}
    (hremote : remote.run.run (Authority.recorded Server.answer) (c.apply edit) line =
      (.ok settlement, c.apply edit, line')) :
    (optimistically id edit remote).run.run (Authority.recorded Server.answer) c line =
      (.ok (), (c.apply edit).apply (settlement.edit id), line') := by
  rw [optimistically, ExceptT.run_mk, Job.run_bind, Job.run_client]
  dsimp only
  rw [Job.run_bind, Job.run_apply]
  dsimp only
  rw [Job.run_bind, hremote]
  rfl

/-- One write was accepted; the editor mirrors what it made of the registry. -/
structure Wrote (s : Server) (exchanges : List Exchange) (id : StructureId) (write : Call)
    (r : Registry) (left : Client) (line : Server × List Exchange) : Prop where
  registry : line.1.registry = r
  terms : s.SameTerms line.1
  mirrors : left.editor.Mirrors r id
  writes : (line.2.filter (·.call.isWrite)).map (·.call) =
    (exchanges.filter (·.call.isWrite)).map (·.call) ++ [write]

theorem Wrote.notify {exchanges : List Exchange} {write : Call} {left : Client}
    {line : Server × List Exchange} (h : Wrote s exchanges id write r left line) (notice : Notice) :
    Wrote s exchanges id write r (left.notify notice) line :=
  ⟨h.registry, h.terms, h.mirrors, h.writes⟩

section written

variable {edit : Edit} {write : Call} {a : write.Answer} {remote : Attempt Settlement}
  (hmirrors : c.editor.Mirrors s.registry id) (hscope : edit.scope = some id)
  (hwrite : write.isWrite = true)
  (hperform : s.registry.perform s.limits write = .ok (a, r))

include hmirrors hscope hwrite hperform

theorem wrote_of_remote {settlement : Settlement} {s' : Server} {reads : List Exchange}
    (hremote : remote.run.run (Authority.recorded Server.answer) (c.apply edit) (s, exchanges) =
      (.ok settlement, c.apply edit, s', exchanges ++ [⟨write, .ok a⟩] ++ reads))
    (hregistry : s'.registry = r) (hterms : s.SameTerms s')
    (hreads : reads.filter (·.call.isWrite) = [])
    (hrows : ((c.apply edit).apply (settlement.edit id)).editor.rows = r.listing id) :
    ∃ left line, (optimistically id edit remote).run.run (Authority.recorded Server.answer) c
        (s, exchanges) = (.ok (), left, line) ∧ Wrote s exchanges id write r left line := by
  refine ⟨_, _, run_optimistically hremote, hregistry, hterms, ?_, ?_⟩
  · refine hmirrors.relisted (Registry.frame_perform hperform) ?_ hrows
    rw [selected_apply (settlement.scope_edit id), selected_apply hscope]
  · simp [hreads, hwrite]

theorem wrote_listed (hfree : s.failpointFor write = none)
    (hfree' : s.failpointFor (.rowsOf id) = none) (hrows : r.RowsAt) :
    ∃ left line, (optimistically id edit (Attempt.call write >>= fun _ =>
          Settlement.listing <$> Attempt.call (.rowsOf id))).run.run
        (Authority.recorded Server.answer) c (s, exchanges) = (.ok (), left, line) ∧
      Wrote s exchanges id write r left line := by
  obtain ⟨record, hrecord⟩ := hmirrors.known
  obtain ⟨s', hregistry, hterms, hwritten⟩ := run_call_ok exchanges hfree hperform (c.apply edit)
    fun _ => (Settlement.listing <$> Attempt.call (.rowsOf id) : Attempt Settlement)
  have hknown : s'.registry.structures.find? id = some record := by
    rw [hregistry, (Registry.frame_perform hperform).structures, hrecord]
  obtain ⟨s'', hregistry', hterms', hlisted⟩ := run_listing (exchanges ++ [⟨write, .ok a⟩])
    ((hterms.failpointFor _).trans hfree') ⟨_, hknown⟩ (c.apply edit)
  refine wrote_of_remote exchanges hmirrors hscope hwrite hperform (hwritten.trans hlisted)
    (hregistry'.trans hregistry) (hterms.trans hterms') rfl ?_
  rw [hregistry]
  exact rows_replaceRows ((structureId_apply hscope).trans hmirrors.structureId)
    (Registry.ascends_listing hrows id)

theorem wrote_settled {settlement : write.Answer → Settlement} (hfree : s.failpointFor write = none)
    (hrows : ((c.apply edit).apply ((settlement a).edit id)).editor.rows = r.listing id) :
    ∃ left line, (optimistically id edit (Attempt.call write >>= fun a =>
          pure (settlement a))).run.run (Authority.recorded Server.answer) c (s, exchanges) =
        (.ok (), left, line) ∧ Wrote s exchanges id write r left line := by
  obtain ⟨s', hregistry, hterms, hwritten⟩ := run_call_ok exchanges hfree hperform (c.apply edit)
    fun a => (pure (settlement a) : Attempt Settlement)
  exact wrote_of_remote exchanges hmirrors hscope hwrite hperform
    (hwritten.trans (by rw [List.append_nil]; rfl)) hregistry hterms rfl hrows

end written

end Client

/-! ### Single ports -/

namespace SingleStep

def job : SingleStep → Job Bool
  | drop spot fiber => Client.dropFiber spot fiber
  | clear spot => Client.clearPort spot

theorem job_operation (step : SingleStep) : step.operation.job = .flag <$> step.job := by
  cases step <;> rfl

variable {s : Server} {c : Client} (exchanges : List Exchange)

theorem run_job (step : SingleStep) (hid : c.editor.structureId = some id) {left : Client}
    {line : Server × List Exchange}
    (hrun : ((step.attempt id).run c).run (Authority.recorded Server.answer) (s, exchanges) =
      (.ok (), left, line)) :
    step.job.run (Authority.recorded Server.answer) c (s, exchanges) =
      (true, left.notify (step.notice (.ok ())), line) := by
  have hflagged : (.flag <$> step.job : Job Outcome).run (Authority.recorded Server.answer) c
      (s, exchanges) = (.flag true, left.notify (step.notice (.ok ())), line) := by
    rw [← job_operation, Job.run, job_selected step c hid, Progress.run_bind, hrun]
    rfl
  rw [Job.run_map] at hflagged
  generalize step.job.run (Authority.recorded Server.answer) c (s, exchanges) = out at hflagged ⊢
  obtain ⟨value, edited, line'⟩ := out
  simpa using hflagged

theorem isWrite_write (step : SingleStep) (id : StructureId) : (step.write id).isWrite = true := by
  cases step <;> rfl

section performed

variable (step : SingleStep) (hs : s.Sound) {a : (step.write id).Answer}
  (hperform : s.registry.perform s.limits (step.write id) = .ok (a, r))

include hs hperform

theorem sound_performed : r.Sound s.limits := by
  cases step with
  | drop spot fiber => exact Registry.Sound.place hs hperform
  | clear spot => exact Registry.Sound.clear hs hperform

theorem rows_settled (hmirrors : c.editor.Mirrors s.registry id)
    (hsingle : groupOf c.editor.rows step.spot = none) :
    ((c.apply (step.edit id)).apply ((step.settlement id a).edit id)).editor.rows =
      r.listing id := by
  obtain ⟨selected, rfl, haligned⟩ := hmirrors.aligned hs []
  cases step with
  | drop spot fiber => exact haligned.confirm hsingle fiber.termination hperform
  | clear spot => exact haligned.prune hsingle hperform

theorem run_unhindered (hmirrors : c.editor.Mirrors s.registry id)
    (hport : s.registry.HasPort id step.spot) (hfree : s.failpointFor (step.write id) = none)
    (hfree' : s.failpointFor (.rowsOf id) = none) :
    ∃ left line, step.job.run (Authority.recorded Server.answer) c (s, exchanges) =
        (true, left, line) ∧ Client.Wrote s exchanges id (step.write id) r left line := by
  have hchecked : (Client.checkMerged step.spot).run.run (Authority.recorded Server.answer) c
      (s, exchanges) = (.ok (groupOf c.editor.rows step.spot).isSome, c, s, exchanges) := by
    rw [Job.run, Client.checkMerged_run, hmirrors.requirePort hport]
    rfl
  have hattempt : ∃ left line, (step.attempt id).run.run (Authority.recorded Server.answer) c
      (s, exchanges) = (.ok (), left, line) ∧
        Client.Wrote s exchanges id (step.write id) r left line := by
    rw [attempt_eq, ExceptT.run_bind, Job.run_bind, hchecked]
    dsimp only
    cases hgroup : groupOf c.editor.rows step.spot with
    | some key =>
      exact Client.wrote_listed exchanges hmirrors (step.scope_edit id) (step.isWrite_write id)
        hperform hfree hfree' (step.sound_performed hs hperform).wellFormed.rowsAt
    | none =>
      exact Client.wrote_settled exchanges hmirrors (step.scope_edit id) (step.isWrite_write id)
        hperform hfree (step.rows_settled hs hperform hmirrors hgroup)
  obtain ⟨left, line, hrun, hwrote⟩ := hattempt
  exact ⟨_, line, step.run_job exchanges hmirrors.structureId hrun, hwrote.notify _⟩

end performed

end SingleStep

namespace Server

def smallClient (s : Server) : Client :=
  { Client.ofSettings {} (.numbered 1 0) with editor :=
    { selected := some ⟨smallTray, s.registry.portsAt smallTray⟩
      rows := s.registry.listing smallTray.id } }

theorem mirrors_smallClient {s : Server}
    (h : s.registry.structures.find? smallTray.id = some smallTray) :
    s.smallClient.editor.Mirrors s.registry smallTray.id :=
  ⟨rfl, ⟨smallTray, h, rfl⟩, rfl⟩

end Server
end CrossConnect
