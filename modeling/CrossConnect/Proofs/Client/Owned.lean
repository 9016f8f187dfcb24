import CrossConnect.Proofs.Client.Edit
import CrossConnect.Proofs.Registry.Listing
import CrossConnect.Proofs.Server

/-!
Rows and the structure they belong to: the authority answers with rows of the structure it was asked
about, and edits that are meant for a structure put only rows of that structure into the editor.
-/
namespace CrossConnect

/-! ### Answers -/

/-- The rows of an answer belong to the structure that the call is about. -/
def Call.Faithful : (call : Call) → Except Failure call.Answer → Prop
  | .rowsOf id, .ok rows => RowsOf id rows
  | .place p, .ok row => row.structureId = p.structureId
  | _, _ => True

theorem Call.faithful_error (call : Call) (e : Failure) : call.Faithful (.error e) := by
  cases call <;> trivial

namespace Registry

variable {r r' : Registry} {limits : Limits}

theorem RowsAt.perform (h : r.RowsAt) {call : Call} {a : call.Answer}
    (hperform : r.perform limits call = .ok (a, r')) : r'.RowsAt ∧ call.Faithful (.ok a) := by
  cases call with
  | portsOf | fibersOf =>
    obtain rfl := perform_read rfl hperform
    exact ⟨h, trivial⟩
  | rowsOf id =>
    obtain ⟨rfl, rfl⟩ := rowsOf_eq_ok hperform
    refine ⟨h, fun row hrow => ?_⟩
    obtain ⟨port, hfind⟩ := mem_listing_iff.1 hrow
    exact (h hfind).1
  | place p =>
    obtain ⟨-, fiber, -, heq⟩ := place_eq_ok hperform
    obtain ⟨rfl, rfl⟩ := Prod.mk.inj heq
    have hopened := (h.writeEndpoints p.structureId p.spot.side
      (fun _ e => { e with fiber := some fiber }) (r.fanOut p.structureId p.spot)).openRow
        p.structureId p.spot.port
    exact ⟨hopened.1, hopened.2.1⟩
  | clear id spot =>
    obtain ⟨-, rfl⟩ := clear_eq_ok hperform
    exact ⟨(rowsAt_vacated h rfl).prune id, trivial⟩
  | merge id ports side =>
    obtain ⟨⟨key, _⟩, hmerge, heq⟩ := map_eq_ok.1 hperform
    obtain rfl := (Prod.mk.inj heq).2
    obtain ⟨sorted, -, -, -, rfl⟩ := merge_eq_ok hmerge
    refine ⟨RowsAt.writeEndpoints ?_ id side _ sorted, trivial⟩
    exact h
  | unmerge key ports =>
    obtain ⟨_, hunmerge, heq⟩ := map_eq_ok.1 hperform
    obtain rfl := (Prod.mk.inj heq).2
    obtain ⟨group, -, -, rfl⟩ := unmerge_eq_ok hunmerge
    have hwritten := h.writeEndpoints group.structureId group.side group.keepFirst group.ports
    exact ⟨RowsAt.prune (r := { r.writeEndpoints group.structureId group.side group.keepFirst
      group.ports with groups := r.groups.erase key }) hwritten group.structureId, trivial⟩
  | upload key side fibers =>
    obtain ⟨_, hupload, heq⟩ := map_eq_ok.1 hperform
    obtain rfl := (Prod.mk.inj heq).2
    obtain ⟨group, -, -, -, -, -, shown, -, rfl⟩ := upload_eq_ok hupload
    exact ⟨h.writeEndpoints group.structureId side _ group.ports, trivial⟩

end Registry

namespace Server

variable {s : Server}

theorem rowsAt_answer (h : s.registry.RowsAt) (call : Call) :
    (s.answer call).2.registry.RowsAt ∧ call.Faithful (s.answer call).1 := by
  obtain ⟨-, ⟨⟨e, herror⟩, hsame⟩ | ⟨a, hok, hperform⟩⟩ := answer_cases s call
  · rw [herror, hsame]
    exact ⟨h, call.faithful_error e⟩
  · rw [hok]
    exact h.perform hperform

theorem Reachable.rowsAt (h : s.Reachable) : s.registry.RowsAt := by
  obtain ⟨settings, plan, ids, requests, rfl⟩ := h
  exact serveAll_keeps (sound_ofPlan settings plan ids).wellFormed.rowsAt
    (fun hperform hr => (hr.perform hperform).1) requests

end Server

/-! ### Edits -/

namespace Client

variable {c : Client} {id : StructureId} {edit : Edit}

theorem editor_apply_elsewhere (hscope : edit.scope = some id)
    (h : c.editor.structureId ≠ some id) : (c.apply edit).editor = c.editor := by
  simp only [apply, Editor.apply]
  rw [if_neg]
  simpa [hscope, Editor.isSelected] using h

theorem owns_apply (h : c.editor.Owns) (hscope : edit.scope = some id)
    (hfits : c.editor.structureId = some id → edit.Fits) : (c.apply edit).editor.Owns := by
  by_cases hid : c.editor.structureId = some id
  · rw [Editor.owns_iff ((structureId_apply hscope).trans hid), editor_apply hid hscope]
    exact ((Editor.owns_iff hid).1 h).perform hscope (hfits hid)
  · rw [editor_apply_elsewhere hscope hid]
    exact h

end Client

end CrossConnect
