import CrossConnect.Client.Operation
import CrossConnect.Proofs.Client.Edit
import CrossConnect.Proofs.Client.Run
import CrossConnect.Proofs.Registry.Listing

/-!
The editor and the authority stay in step: whatever a single client does, and whichever of its calls
fail, the rows it shows afterwards are the rows that the authority lists. A refused write is undone
from the rows of before. An accepted one is settled by the authority's row, by a new listing or by
dropping empty rows, and each of these arrives at the listing by another way.
-/
namespace CrossConnect

/-- The rows of the selected structure; none when there is no selection. -/
def Registry.shown (r : Registry) : Option StructureId → List Splice
  | some id => r.listing id
  | none => []

structure InStep (c : Client) (s : Server) : Prop where
  sound : s.Sound
  rows : c.editor.rows = s.registry.shown c.editor.structureId

/-! ### Calls on the line -/

/-- The identifiers were all different, and whatever was written could be fetched anew. -/
def Settled (line : Server × List Exchange) : Prop :=
  line.1.registry.ids.Distinct ∧ Refetched line.2

theorem backwardClosed_settled (loses : List Exchange → Call → Option Failure) :
    Job.BackwardClosed (Authority.lossy loses Server.answer) Settled := by
  rintro line call ⟨hids, hrefetched⟩
  obtain ⟨hrecord, -, -⟩ := Server.lossy_cases loses line call
  rw [hrecord] at hrefetched
  exact ⟨(Server.frame_lossy loses line call).distinct hids, hrefetched.of_append⟩

def JustWrote (line : Server × List Exchange) : Prop :=
  ∃ exchanges e, line.2 = exchanges ++ [e] ∧ e.isAccepted = true

section calls

variable {loses : List Exchange → Call → Option Failure} {line : Server × List Exchange}
  {c : Client} {id : StructureId}

theorem ends_attempt_call (call : Call)
    {post : Except Failure call.Answer → Client → Server × List Exchange → Prop}
    (hsound : line.1.Sound)
    (herror : ∀ e line', line'.1.registry = line.1.registry → line'.1.Sound →
      post (.error e) c line')
    (hok : ∀ a line', line.1.registry.perform line.1.limits call = .ok (a, line'.1.registry) →
      line'.1.Sound → (call.isWrite = true → JustWrote line') → post (.ok a) c line') :
    Job.Ends (Authority.lossy loses Server.answer) Settled (Attempt.call call).run post c line := by
  refine Server.ends_call ?_ ?_
  · intro e line' _ _ hlimits hsame
    exact herror e line' hsame (hsound.of_same hlimits hsame)
  · intro a line' hfinal hrecord hlimits hperform
    refine hok a line' hperform (hsound.of_perform hlimits hperform hfinal.1) fun hwrite => ?_
    refine ⟨line.2, _, hrecord, ?_⟩
    simp [Exchange.isAccepted, Exchange.succeeded, Exchange.failure?, hwrite]

theorem ends_refetch {post : Except Failure (List Splice) → Client → Server × List Exchange → Prop}
    (hsound : line.1.Sound) (hwrote : JustWrote line)
    (hok : ∀ line', line'.1.registry = line.1.registry → line'.1.Sound →
      post (.ok (line.1.registry.listing id)) c line') :
    Job.Ends (Authority.lossy loses Server.answer) Settled (Attempt.call (.rowsOf id)).run post c
      line := by
  refine Server.ends_call ?_ ?_
  · -- The listing was lost although the call before it was an accepted write.
    intro e line' hfinal hrecord _ _
    obtain ⟨exchanges, written, hwritten, haccepted⟩ := hwrote
    have hkept := hfinal.2
    rw [hrecord, hwritten] at hkept
    have := hkept.last haccepted
    simp [Exchange.isLostListing, Exchange.succeeded, Exchange.failure?] at this
  · intro rows line' _ _ hlimits hperform
    obtain ⟨rfl, hsame⟩ := Registry.rowsOf_eq_ok hperform
    exact hok line' hsame (hsound.of_same hlimits hsame)

end calls

/-! ### Jobs that keep step -/

/-- What holds between the parts of an operation while nothing is pending. -/
structure Aligned (structures : Table StructureId Structure) (selected : Option SelectedStructure)
    (c : Client) (line : Server × List Exchange) : Prop where
  inStep : InStep c line.1
  structures : line.1.registry.structures = structures
  selected : c.editor.selected = selected

/-- Wherever the editor is in step, it is in step again when the job ends, and the selection is the
same. -/
def Keeps {α : Type} (loses : List Exchange → Call → Option Failure)
    (structures : Table StructureId Structure) (selected : Option SelectedStructure)
    (job : Job α) : Prop :=
  ∀ c line, Aligned structures selected c line →
    Job.Ends (Authority.lossy loses Server.answer) Settled job
      (fun _ => Aligned structures selected) c line

section keeps

variable {loses : List Exchange → Call → Option Failure}
  {structures : Table StructureId Structure} {selected : Option SelectedStructure} {α β : Type}

theorem Keeps.bind {job : Job α} {next : α → Job β} (h : Keeps loses structures selected job)
    (hnext : ∀ value, Keeps loses structures selected (next value)) :
    Keeps loses structures selected (job >>= next) := by
  intro c line haligned
  rw [Job.ends_bind (backwardClosed_settled loses)]
  exact (h c line haligned).mono fun value c line _ => hnext value c line

theorem Keeps.attempt {attempt : Attempt α} {next : α → Attempt β}
    (h : Keeps loses structures selected attempt.run)
    (hnext : ∀ value, Keeps loses structures selected (next value).run) :
    Keeps loses structures selected (attempt >>= next).run := by
  intro c line haligned
  rw [Job.ends_attempt (backwardClosed_settled loses)]
  refine (h c line haligned).mono ?_
  rintro (e | value) c line - haligned
  · exact haligned
  · exact hnext value c line haligned

theorem keeps_pure (value : α) : Keeps loses structures selected (pure value) :=
  fun _ _ haligned _ => haligned

theorem keeps_client {next : Client → Job β}
    (h : ∀ c : Client, c.editor.selected = selected → Keeps loses structures selected (next c)) :
    Keeps loses structures selected (Job.client >>= next) := by
  intro c line haligned
  exact Job.ends_bind_client.2 (h c haligned.selected c line haligned)

theorem Aligned.of_editor {c c' : Client} {line : Server × List Exchange}
    (h : Aligned structures selected c line) (hrows : c'.editor.rows = c.editor.rows)
    (hselected : c'.editor.selected = c.editor.selected) : Aligned structures selected c' line := by
  refine ⟨⟨h.inStep.sound, ?_⟩, h.structures, hselected.trans h.selected⟩
  rw [hrows, h.inStep.rows]
  simp only [Editor.structureId]
  rw [hselected]

theorem keeps_update {f : Client → Client} (hrows : ∀ c, (f c).editor.rows = c.editor.rows)
    (hselected : ∀ c, (f c).editor.selected = c.editor.selected) :
    Keeps loses structures selected (Job.update f) :=
  fun c _ h _ => h.of_editor (hrows c) (hselected c)

theorem keeps_notify (notice : Notice) : Keeps loses structures selected (Job.notify notice) :=
  keeps_update (fun _ => rfl) fun _ => rfl

theorem keeps_report (notice : Notice) (value : α) :
    Keeps loses structures selected (do Job.notify notice; pure value) :=
  (keeps_notify notice).bind fun _ => keeps_pure value

theorem Aligned.of_same {c : Client} {line line' : Server × List Exchange}
    (h : Aligned structures selected c line) (hsame : line'.1.registry = line.1.registry)
    (hsound : line'.1.Sound) : Aligned structures selected c line' := by
  refine ⟨⟨hsound, ?_⟩, ?_, h.selected⟩
  · rw [hsame, h.inStep.rows]
  · rw [hsame, h.structures]

theorem keeps_read {call : Call} (hread : call.isWrite = false) :
    Keeps loses structures selected (Attempt.call call).run := by
  intro c line h
  refine ends_attempt_call call h.inStep.sound ?_ ?_
  · intro e line' hsame hsound
    exact h.of_same hsame hsound
  · intro a line' hperform hsound _
    exact h.of_same (Registry.perform_read hread hperform) hsound

end keeps

/-! ### Optimistic edits -/

section optimistic

variable {loses : List Exchange → Call → Option Failure}
  {structures : Table StructureId Structure} {selected : SelectedStructure}
  {c : Client} {line : Server × List Exchange}

theorem Aligned.structureId (h : Aligned structures (some selected) c line) :
    c.editor.structureId = some selected.record.id := by
  simp only [Editor.structureId]
  rw [h.selected]
  rfl

theorem Aligned.edited (h : Aligned structures (some selected) c line) (edit : Edit)
    (hscope : edit.scope = some selected.record.id) :
    (c.apply edit).editor.structureId = some selected.record.id :=
  (Client.structureId_apply hscope).trans h.structureId

theorem Aligned.rows (h : Aligned structures (some selected) c line) :
    c.editor.rows = line.1.registry.listing selected.record.id := by
  rw [h.inStep.rows, h.structureId]
  rfl

theorem Aligned.wellFormed {selected : Option SelectedStructure}
    (h : Aligned structures selected c line) : line.1.registry.WellFormed line.1.limits :=
  h.inStep.sound.wellFormed

theorem Aligned.ascends (h : Aligned structures (some selected) c line) :
    Occupancy.Ascends c.editor.rows := by
  rw [h.rows]
  exact Registry.ascends_listing h.wellFormed.rowsAt _

theorem Aligned.row (h : Aligned structures (some selected) c line) (port : PortNumber) :
    Occupancy.row c.editor.rows port = line.1.registry.rows.find? (selected.record.id, port) := by
  rw [h.rows]
  exact Registry.row_listing h.wellFormed.rowsAt _ _

theorem Aligned.groupOf (h : Aligned structures (some selected) c line) (spot : PortSide) :
    Occupancy.groupOf c.editor.rows spot =
      (line.1.registry.endpoint selected.record.id spot).group := by
  rw [h.rows]
  exact Registry.groupOf_listing h.wellFormed.rowsAt _ _

theorem Aligned.replaceRows {c' : Client} {line' : Server × List Exchange}
    (hselected : c'.editor.selected = some selected) (hsound : line'.1.Sound)
    (hstructures : line'.1.registry.structures = structures) :
    Aligned structures (some selected)
      (c'.apply (.replaceRows selected.record.id (line'.1.registry.listing selected.record.id)))
      line' := by
  have hid : c'.editor.structureId = some selected.record.id := by
    simp only [Editor.structureId]
    rw [hselected]
    rfl
  refine ⟨⟨hsound, ?_⟩, hstructures, ?_⟩
  · rw [Client.structureId_apply rfl, hid, Client.editor_apply hid rfl]
    exact sortRows_eq_self (Registry.ascends_listing hsound.wellFormed.rowsAt _)
  · rw [Client.selected_apply rfl, hselected]

/-- What the remote part of an operation owes: when it fails the listing is the old one, and when it
succeeds its settlement turns the edited rows into the new listing. -/
def Delivers (structures : Table StructureId Structure) (selected : SelectedStructure)
    (edited : Client) (old : List Splice) (answer : Except Failure Settlement) (c : Client)
    (line : Server × List Exchange) : Prop :=
  c = edited ∧ line.1.Sound ∧ line.1.registry.structures = structures ∧
    match answer with
    | .ok settlement =>
      (edited.apply (settlement.edit selected.record.id)).editor.rows =
        line.1.registry.listing selected.record.id
    | .error _ => line.1.registry.listing selected.record.id = old

theorem Settlement.scope_edit (settlement : Settlement) (id : StructureId) :
    (settlement.edit id).scope = some id := by
  cases settlement <;> rfl

theorem ends_optimistically (h : Aligned structures (some selected) c line) {edit : Edit}
    {remote : Attempt Settlement} (hscope : edit.scope = some selected.record.id)
    (hremote : Job.Ends (Authority.lossy loses Server.answer) Settled remote.run
      (Delivers structures selected (c.apply edit) c.editor.rows) (c.apply edit) line) :
    Job.Ends (Authority.lossy loses Server.answer) Settled
      (Client.optimistically selected.record.id edit remote).run
      (fun _ => Aligned structures (some selected)) c line := by
  simp only [Client.optimistically]
  rw [ExceptT.run_mk, Job.ends_bind_client, Job.ends_bind_apply,
    Job.ends_bind (backwardClosed_settled loses)]
  refine hremote.mono ?_
  rintro (e | settlement) c' line' - ⟨rfl, hsound, hstructures, hdelivered⟩
  · -- The rows of before are put back, and the authority lists just these.
    have hlisted : line'.1.registry.listing selected.record.id = c.editor.rows := hdelivered
    dsimp only
    rw [Job.ends_bind_apply]
    intro _
    rw [← hlisted]
    refine .replaceRows ?_ hsound hstructures
    rw [Client.selected_apply hscope, h.selected]
  · dsimp only
    rw [Job.ends_bind_apply]
    intro _
    refine ⟨⟨hsound, ?_⟩, hstructures, ?_⟩
    · rw [Client.structureId_apply (settlement.scope_edit _), Client.structureId_apply hscope,
        h.structureId]
      exact hdelivered
    · rw [Client.selected_apply (settlement.scope_edit _), Client.selected_apply hscope, h.selected]

theorem Aligned.confirm (h : Aligned structures (some selected) c line) {spot : PortSide}
    (hnone : Occupancy.groupOf c.editor.rows spot = none) (fiber : Termination) {ref : FiberRef}
    {row : Splice} {r : Registry}
    (hplace : line.1.registry.place ⟨selected.record.id, spot, ref⟩ = .ok (row, r)) :
    ((c.apply (.place selected.record.id spot fiber)).apply
      (.confirm selected.record.id row)).editor.rows = r.listing selected.record.id := by
  have hid := h.structureId
  have hid' := h.edited (.place selected.record.id spot fiber) rfl
  have hplaced := Client.ascends_place spot fiber hid h.ascends
  have hrowsAt := (h.wellFormed.place hplace).rowsAt
  have hport : row.port = spot.port :=
    (hrowsAt (h.wellFormed.place_eq_ok hplace).2.1).2.1
  refine Registry.eq_listing hrowsAt (Client.ascends_confirm hid' hplaced) fun port => ?_
  rw [h.groupOf] at hnone
  rw [Client.row_confirm hid' hplaced, hport,
    Client.row_place hid h.ascends (by rw [h.groupOf, hnone]), h.row,
    h.wellFormed.find?_place hplace hnone]
  dsimp only
  split <;> rfl

theorem Aligned.prune (h : Aligned structures (some selected) c line) {spot : PortSide}
    (hnone : Occupancy.groupOf c.editor.rows spot = none) {outcome : ClearOutcome} {r : Registry}
    (hclear : line.1.registry.clear selected.record.id spot = .ok (outcome, r)) :
    ((c.apply (.vacate selected.record.id spot)).apply (.prune selected.record.id)).editor.rows =
      r.listing selected.record.id := by
  have hid := h.structureId
  have hid' := h.edited (.vacate selected.record.id spot) rfl
  have hvacated := Client.ascends_vacate spot hid h.ascends
  refine Registry.eq_listing (h.wellFormed.clear hclear).rowsAt (Client.ascends_prune hid' hvacated)
    fun port => ?_
  rw [h.groupOf] at hnone
  rw [Client.row_prune hid' hvacated, Client.row_vacate hid (by rw [h.groupOf, hnone]), h.row,
    h.wellFormed.find?_clear hclear hnone]
  split
  next => rfl
  next =>
    cases hfind : line.1.registry.rows.find? (selected.record.id, port) with
    | none => rfl
    | some row => simp [h.wellFormed.row_filled hfind]

theorem ends_listing {edited : Client} {old : List Splice}
    (hedited : edited.editor.structureId = some selected.record.id) (hsound : line.1.Sound)
    (hstructures : line.1.registry.structures = structures) (hwrote : JustWrote line) :
    Job.Ends (Authority.lossy loses Server.answer) Settled
      (Settlement.listing <$> Attempt.call (.rowsOf selected.record.id) : Attempt Settlement).run
      (Delivers structures selected edited old) edited line := by
  rw [map_eq_pure_bind, Job.ends_attempt (backwardClosed_settled loses)]
  refine ends_refetch hsound hwrote fun line' hsame hsound' _ => ?_
  refine ⟨rfl, hsound', by rw [hsame, hstructures], ?_⟩
  rw [hsame]
  exact Client.rows_replaceRows hedited
    (Registry.ascends_listing hsound.wellFormed.rowsAt selected.record.id)

theorem ends_written (h : Aligned structures (some selected) c line) {edited : Client}
    {write : Call} (hwrite : write.isWrite = true) {settle : write.Answer → Attempt Settlement}
    (hsettle : ∀ a line', line.1.registry.perform line.1.limits write = .ok (a, line'.1.registry) →
      line'.1.Sound → line'.1.registry.structures = structures → JustWrote line' →
      Job.Ends (Authority.lossy loses Server.answer) Settled (settle a).run
        (Delivers structures selected edited c.editor.rows) edited line') :
    Job.Ends (Authority.lossy loses Server.answer) Settled (Attempt.call write >>= settle).run
      (Delivers structures selected edited c.editor.rows) edited line := by
  rw [Job.ends_attempt (backwardClosed_settled loses)]
  refine ends_attempt_call write h.inStep.sound ?_ ?_
  · intro e line' hsame hsound
    exact ⟨rfl, hsound, by rw [hsame, h.structures], by rw [hsame, h.rows]⟩
  · intro a line' hperform hsound hwrote
    refine hsettle a line' hperform hsound ?_ (hwrote hwrite)
    rw [(Registry.frame_perform hperform).structures, h.structures]

theorem ends_settleMerged {edited : Client} {old : List Splice} {merged : Bool}
    {otherwise : Settlement} (hedited : edited.editor.structureId = some selected.record.id)
    (hsound : line.1.Sound) (hstructures : line.1.registry.structures = structures)
    (hwrote : JustWrote line)
    (hotherwise : merged = false → (edited.apply (otherwise.edit selected.record.id)).editor.rows =
      line.1.registry.listing selected.record.id) :
    Job.Ends (Authority.lossy loses Server.answer) Settled
      (Client.settleMerged selected.record.id merged otherwise).run
      (Delivers structures selected edited old) edited line := by
  cases merged with
  | true => exact ends_listing hedited hsound hstructures hwrote
  | false => exact fun _ => ⟨rfl, hsound, hstructures, hotherwise rfl⟩

theorem keeps_checkMerged {spot : PortSide} {next : Bool → Attempt Unit}
    (hnext : ∀ c line, Aligned structures (some selected) c line →
      Job.Ends (Authority.lossy loses Server.answer) Settled
        (next (Occupancy.groupOf c.editor.rows spot).isSome).run
        (fun _ => Aligned structures (some selected)) c line) :
    Keeps loses structures (some selected) (Client.checkMerged spot >>= next).run := by
  intro c line h
  rw [Job.ends_attempt (backwardClosed_settled loses), Client.checkMerged, ExceptT.run_mk,
    Job.ends_bind_client, Job.ends_pure]
  intro _
  cases Client.requirePort c.editor spot with
  | error e => exact h
  | ok _ => exact hnext c line h

theorem keeps_assign (spot : PortSide) (fiber : LabelledFiber) :
    Keeps loses structures (some selected) (Client.assign selected.record.id spot fiber).run := by
  refine keeps_checkMerged fun c line h => ends_optimistically h rfl ?_
  have hedited := h.edited (.place _ spot fiber.termination) rfl
  refine ends_written h rfl fun row line' hperform hsound hstructures hwrote => ?_
  refine ends_settleMerged hedited hsound hstructures hwrote fun hmerged => ?_
  exact h.confirm (by simpa using hmerged) _ hperform

theorem keeps_vacate (spot : PortSide) :
    Keeps loses structures (some selected) (Client.vacate selected.record.id spot).run := by
  refine keeps_checkMerged fun c line h => ends_optimistically h rfl ?_
  have hedited := h.edited (.vacate _ spot) rfl
  refine ends_written h rfl fun outcome line' hperform hsound hstructures hwrote => ?_
  refine ends_settleMerged hedited hsound hstructures hwrote fun hmerged => ?_
  exact h.prune (by simpa using hmerged) hperform

end optimistic
end CrossConnect
