import CrossConnect.Proofs.Client.Bench
import CrossConnect.Proofs.Client.InStep
import CrossConnect.Proofs.Client.Sight

/-!
What a single step owes while it is under way. It restores all rows it started from when it is
refused, and so takes back whatever another one has done to the editor meanwhile. Its rows are
therefore only right as far as the other one has not to settle them itself.
-/
namespace CrossConnect

theorem Server.answer_eq (s : Server) (c : Call) :
    (∃ e, s.answer c = (.error e, { s with log := s.log ++ [c] })) ∨
      ∃ a r, s.registry.perform s.limits c = .ok (a, r) ∧
        s.answer c = (.ok a, { s with log := s.log ++ [c], registry := r }) := by
  simp only [answer]
  split
  next key _ => exact .inl ⟨_, rfl⟩
  next =>
    split
    next a r hperform => exact .inr ⟨a, r, hperform, rfl⟩
    next e _ => exact .inl ⟨e, rfl⟩

theorem Server.answer_rowsOf {s : Server} {id : StructureId} {record : Structure}
    (hpoint : "get_fiber_splices" ∉ s.failpoints)
    (hknown : s.registry.structures.find? id = some record) :
    s.answer (.rowsOf id) =
      (.ok (s.registry.listing id), { s with log := s.log ++ [.rowsOf id] }) := by
  refine answer_listing ?_ ⟨record, hknown⟩
  simp [failpointFor, Call.failpointKeys, Call.name, Call.port?, hpoint]

namespace SingleStep

def clears : SingleStep → Bool
  | drop _ _ => false
  | clear _ => true

variable {step : SingleStep} {id : StructureId}

/-! ### Its write -/

section write

variable {r r' : Registry} {limits : Limits} {a : (step.write id).Answer} {g : Sight}
  {shown kept kept' : PortNumber → Option Splice}

theorem sound_write (h : r.Sound limits)
    (hperform : r.perform limits (step.write id) = .ok (a, r')) : r'.Sound limits := by
  cases step with
  | drop spot fiber => exact h.place hperform
  | clear spot => exact h.clear hperform

theorem group_write (h : r.Sound limits)
    (hperform : r.perform limits (step.write id) = .ok (a, r')) (other : StructureId)
    (spot : PortSide) : (r'.endpoint other spot).group = (r.endpoint other spot).group := by
  cases step with
  | drop spot fiber => exact h.wellFormed.group_place hperform
  | clear spot => exact h.wellFormed.group_clear hperform

theorem known_write (hperform : r.perform limits (step.write id) = .ok (a, r')) :
    ∃ record, r.structures.find? id = some record := by
  cases step with
  | drop spot fiber => exact (Registry.place_eq_ok hperform).1.known
  | clear spot => exact (Registry.clear_eq_ok hperform).1

theorem same_write (h : r.Sound limits)
    (hperform : r.perform limits (step.write id) = .ok (a, r'))
    (hnone : (r.endpoint id step.spot).group = none) (notices : Prop) :
    (Sight.past step.spot notices).Same (r'.stored id) (r.stored id) := by
  cases step with
  | drop spot fiber => exact Sight.same_stored_place h.wellFormed hperform hnone
  | clear spot => exact Sight.same_stored_clear h.wellFormed hperform hnone

structure Edited (step : SingleStep) (g : Sight) (shown kept : PortNumber → Option Splice) :
    Prop where
  hidden : g.Same (hide step.spot shown) (hide step.spot kept)
  vacated : step.clears = true → g.Same (Settlement.prune.fold shown) (hide step.spot shown)
  temporary : g.notices → ∀ port, ∀ r ∈ shown port, r.id.isTemporary = true →
    step.clears = false ∧ port = step.spot.port

theorem Edited.of_same (h : step.Edited g shown kept) (hkept : g.Same kept kept') :
    step.Edited g shown kept' :=
  ⟨h.hidden.trans (hkept.hidden _), h.vacated, h.temporary⟩

theorem Edited.settled (h : step.Edited g shown (r.stored id)) (hsound : r.Sound limits)
    (hperform : r.perform limits (step.write id) = .ok (a, r'))
    (hnone : (r.endpoint id step.spot).group = none) :
    g.Agrees ((step.settlement id a).fold shown) (r'.stored id) := by
  have hsound' := sound_write hsound hperform
  cases step with
  | drop spot fiber =>
    obtain ⟨hstored, hport⟩ := Sight.stored_place hsound.wellFormed hperform hnone
    refine ⟨?_, fun hnotices port row hrow => ?_⟩
    · have hsame : g.Same ((Settlement.row a).fold shown) ((Settlement.row a).fold (r.stored id)) :=
        h.hidden.fold_row hport
      rw [← hstored] at hsame
      exact hsame
    · have hrow : ((Settlement.row a).fold shown) port = some row := hrow
      dsimp only [Settlement.fold] at hrow
      split at hrow
      next hat =>
        obtain rfl := Option.some.inj hrow
        exact (hsound'.wellFormed.row_at
          (hsound.wellFormed.place_eq_ok hperform).2.1).2.2
      next hat =>
        -- Only the row that was confirmed could have been a temporary one.
        by_contra htemporary
        rw [Bool.not_eq_false] at htemporary
        exact hat ((h.temporary hnotices port row hrow htemporary).2.trans hport.symm)
  | clear spot =>
    refine ⟨?_, fun hnotices port row hrow => ?_⟩
    · have hsame := (h.vacated rfl).trans h.hidden
      rw [Sight.stored_clear hsound.wellFormed hperform hnone]
      exact hsame
    · have hrow : (shown port).filter (!·.isEmpty) = some row := hrow
      by_contra htemporary
      rw [Bool.not_eq_false] at htemporary
      have hshown := (Option.filter_eq_some_iff.1 hrow).1
      exact Bool.noConfusion (h.temporary hnotices port row hshown htemporary).1

end write

/-! ### Its edit -/

section edit

variable {c : Client} {g : Sight} {kept shown shown' : PortNumber → Option Splice}

theorem ascends_edit (step : SingleStep) (hid : c.editor.structureId = some id)
    (h : Occupancy.Ascends c.editor.rows) :
    Occupancy.Ascends (c.apply (step.edit id)).editor.rows := by
  cases step with
  | drop spot fiber => exact Client.ascends_place spot fiber.termination hid h
  | clear spot => exact Client.ascends_vacate spot hid h

theorem groupOf_edit (step : SingleStep) (hid : c.editor.structureId = some id)
    (h : Occupancy.Ascends c.editor.rows) (spot : PortSide) :
    Occupancy.groupOf (c.apply (step.edit id)).editor.rows spot =
      Occupancy.groupOf c.editor.rows spot := by
  cases step with
  | drop _ fiber => exact Client.groupOf_place hid h spot
  | clear _ => exact Client.groupOf_vacate hid spot

theorem same_edit (step : SingleStep) (hid : c.editor.structureId = some id)
    (h : Occupancy.Ascends c.editor.rows)
    (hnone : Occupancy.groupOf c.editor.rows step.spot = none) (notices : Prop) :
    (Sight.past step.spot notices).Same (Occupancy.row (c.apply (step.edit id)).editor.rows)
      (Occupancy.row c.editor.rows) := by
  cases step with
  | drop spot fiber => exact Sight.same_place fiber.termination hid h hnone
  | clear spot => exact Sight.same_vacate hid hnone

theorem stems_vacate {spot : PortSide} (hid : c.editor.structureId = some id)
    (hnone : Occupancy.groupOf c.editor.rows spot = none) :
    Stems (Occupancy.row (c.apply (.vacate id spot)).editor.rows)
      (Occupancy.row c.editor.rows) := by
  intro port r' hrow
  have hrow : Occupancy.row (c.apply (.vacate id spot)).editor.rows port = some r' := hrow
  rw [Client.row_vacate hid hnone] at hrow
  obtain ⟨r, hr, rfl⟩ := Option.map_eq_some_iff.1 hrow
  refine ⟨r, hr, ?_⟩
  split
  · exact ⟨(Splice.id_mapEndpoint ..).symm, isEmpty_setFiber⟩
  · exact ⟨rfl, fun hempty => hempty⟩

theorem Edited.of_stems {step : SingleStep} (h : step.Edited .full shown kept)
    (hsame : g.Same shown' shown) (hstems : g.notices → Stems shown' shown) :
    step.Edited g shown' kept := by
  refine ⟨(hsame.hidden _).trans (h.hidden.of_full g), fun hclears => ?_, ?_⟩
  · exact ((hsame.fold .prune).trans ((h.vacated hclears).of_full g)).trans (hsame.hidden _).symm
  · intro hnotices port r' hrow htemporary
    obtain ⟨r, hr, hid, -⟩ := hstems hnotices port r' hrow
    rw [← hid] at htemporary
    exact h.temporary trivial port r hr htemporary

theorem edited_edit (step : SingleStep) (hid : c.editor.structureId = some id)
    (h : Occupancy.Ascends c.editor.rows)
    (hnone : Occupancy.groupOf c.editor.rows step.spot = none)
    (hagrees : g.Agrees (Occupancy.row c.editor.rows) kept)
    (hfilled : ∀ port, ∀ r ∈ kept port, r.isEmpty = false) :
    step.Edited g (Occupancy.row (c.apply (step.edit id)).editor.rows) kept := by
  have hhidden : hide step.spot (Occupancy.row (c.apply (step.edit id)).editor.rows) =
      hide step.spot (Occupancy.row c.editor.rows) :=
    Sight.same_past.1 (same_edit step hid h hnone True)
  refine ⟨hhidden ▸ hagrees.1.hidden _, ?_, ?_⟩
  · intro hclears port
    cases step with
    | drop _ _ => cases hclears
    | clear spot =>
      have hnone : Occupancy.groupOf c.editor.rows spot = none := hnone
      dsimp only [Settlement.fold, hide, edit, SingleStep.spot]
      rw [Client.row_vacate hid hnone]
      by_cases hport : port = spot.port
      · simp only [if_pos hport, bare_map]
        rfl
      · simp only [if_neg hport, Option.map_id']
        exact hagrees.1.filter hfilled port
  · intro hnotices port r hrow htemporary
    have hpersisted := hagrees.2 hnotices
    cases step with
    | drop spot fiber =>
      have hnone : Occupancy.groupOf c.editor.rows spot = none := hnone
      have hrow : Occupancy.row (c.apply (.place id spot fiber.termination)).editor.rows port =
        some r := hrow
      rw [Client.row_place hid h hnone] at hrow
      split at hrow
      next hport => exact ⟨rfl, hport⟩
      next hport => exact Bool.noConfusion ((hpersisted port r hrow).symm.trans htemporary)
    | clear spot =>
      have := (stems_vacate hid hnone).persisted hpersisted port r hrow
      exact Bool.noConfusion (this.symm.trans htemporary)

end edit

end SingleStep

/-! ### One step under way -/

def SingleStep.Told (r : Registry) (id : StructureId) :
    (step : SingleStep) → (step.write id).Answer → Prop
  | drop spot _, row => r.stored id spot.port = some row
  | clear spot, _ => hide spot (r.stored id) = r.stored id

theorem SingleStep.told_write {step : SingleStep} {id : StructureId} {r r' : Registry}
    {limits : Limits} {a : (step.write id).Answer} (h : r.Sound limits)
    (hperform : r.perform limits (step.write id) = .ok (a, r'))
    (hnone : (r.endpoint id step.spot).group = none) : step.Told r' id a := by
  cases step with
  | drop spot fiber => exact (h.wellFormed.place_eq_ok hperform).2.1
  | clear spot =>
    have hstored : r'.stored id = hide spot (r.stored id) :=
      Sight.stored_clear h.wellFormed hperform hnone
    change hide spot (r'.stored id) = r'.stored id
    rw [hstored, hide_hide]

namespace Task

variable {id : StructureId}

/-- What of the rows is known while the step is under way: all but the fiber that it is about to
settle, and nothing when it is about to fetch them all. -/
def sight (t : Task id) : Sight :=
  if t.merged then .blind else .past t.step.spot (t.step.clears = true)

def isEnded (t : Task id) : Bool :=
  match t.phase with
  | .ended _ => true
  | _ => false

/-- The rows will be right, as far as `g` sees them, once the step has ended. -/
def Due (t : Task id) (g : Sight) (shown kept : PortNumber → Option Splice) : Prop :=
  match t.phase with
  | .asked => g.Agrees (Occupancy.row t.before) kept ∧
      (t.merged = false → t.step.Edited g shown kept)
  | .told (.error _) => g.Agrees (Occupancy.row t.before) kept
  | .told (.ok a) => t.merged = false → g.Agrees ((t.step.settlement id a).fold shown) kept
  | .fetching => True
  | .fetched (.error _) => False
  | .fetched (.ok rows) => g.Agrees (Occupancy.row rows) kept
  | .ended _ => g.Agrees shown kept

structure Valid (t : Task id) (r : Registry) : Prop where
  ascends : Occupancy.Ascends t.before
  merged : t.merged = (r.endpoint id t.step.spot).group.isSome
  phase : match t.phase with
    | .told (.ok a) => (∃ record, r.structures.find? id = some record) ∧
        ∃ s, t.served = some s ∧ s.Sound ∧ (t.merged = false → t.step.Told s.registry id a)
    | .fetching => t.merged = true ∧ ∃ record, r.structures.find? id = some record
    | .fetched (.ok rows) => t.merged = true ∧
        ∃ s, t.served = some s ∧ s.Sound ∧ rows = s.registry.listing id
    | _ => True

variable {t : Task id} {s : Server} {r r' : Registry} {c : Client} {g : Sight}
  {shown shown' kept kept' : PortNumber → Option Splice}

theorem Valid.of_same (h : t.Valid r) (hstructures : r'.structures = r.structures)
    (hgroup : ∀ spot, (r'.endpoint id spot).group = (r.endpoint id spot).group) : t.Valid r' := by
  refine ⟨h.ascends, h.merged.trans (by rw [hgroup]), ?_⟩
  have hphase := h.phase
  rw [hstructures]
  exact hphase

theorem Due.of_same (h : t.Due g shown kept) (hkept : g.Same kept kept') : t.Due g shown kept' := by
  obtain ⟨step, merged, before, phase, served⟩ := t
  cases phase with
  | asked => exact ⟨h.1.of_same hkept, fun hmerged => (h.2 hmerged).of_same hkept⟩
  | told answer =>
    cases answer with
    | error e => exact Sight.Agrees.of_same h hkept
    | ok a => exact fun hmerged => (h hmerged).of_same hkept
  | fetching => trivial
  | fetched answer =>
    cases answer with
    | error e => exact h
    | ok rows => exact Sight.Agrees.of_same h hkept
  | ended reported => exact Sight.Agrees.of_same h hkept

theorem Due.of_stems (h : t.Due .full shown kept) (hsame : g.Same shown' shown)
    (hstems : g.notices → Stems shown' shown) : t.Due g shown' kept := by
  obtain ⟨step, merged, before, phase, served⟩ := t
  cases phase with
  | asked => exact ⟨h.1.of_full g, fun hmerged => (h.2 hmerged).of_stems hsame hstems⟩
  | told answer =>
    cases answer with
    | error e => exact Sight.Agrees.of_full h g
    | ok a =>
      intro hmerged
      exact Sight.Agrees.of_stems (h hmerged) (hsame.fold _) fun hnotices =>
        (hstems hnotices).fold _
  | fetching => trivial
  | fetched answer =>
    cases answer with
    | error e => exact h
    | ok rows => exact Sight.Agrees.of_full h g
  | ended reported => exact Sight.Agrees.of_stems h hsame hstems

/-! ### Events of one step -/

inductive Serves (t : Task id) (s : Server) : Task id × Server → Prop
  | idle : t.sent? = none → Serves t s (t, s)
  | refused (e : Failure) (log : List Call) : t.phase = .asked →
      Serves t s ({ t with phase := .told (.error e), served := some { s with log } },
        { s with log })
  | accepted (a : (t.step.write id).Answer) (r : Registry) (log : List Call) : t.phase = .asked →
      s.registry.perform s.limits (t.step.write id) = .ok (a, r) →
      Serves t s ({ t with phase := .told (.ok a), served := some { s with log, registry := r } },
        { s with log, registry := r })
  | listed (log : List Call) : t.phase = .fetching →
      Serves t s ({ t with
          phase := .fetched (.ok (s.registry.listing id))
          served := some { s with log } },
        { s with log })

theorem serves (h : t.Valid s.registry) (hpoint : "get_fiber_splices" ∉ s.failpoints) :
    t.Serves s (t.serve s) := by
  obtain ⟨step, merged, before, phase, served⟩ := t
  cases phase with
  | asked =>
    simp only [serve]
    obtain ⟨e, heq⟩ | ⟨a, r, hperform, heq⟩ := s.answer_eq (step.write id)
    · rw [heq]
      exact .refused e _ rfl
    · rw [heq]
      let t : Task id := { step, merged, before, served }
      exact Serves.accepted (t := t) a r _ rfl hperform
  | fetching =>
    obtain ⟨-, record, hknown⟩ := h.phase
    simp only [serve]
    rw [Server.answer_rowsOf hpoint hknown]
    exact .listed _ rfl
  | told answer => exact .idle rfl
  | fetched answer => exact .idle rfl
  | ended reported => exact .idle rfl

variable {out : Task id × Server}

theorem Serves.sound (h : t.Serves s out) (hsound : s.Sound) : out.2.Sound := by
  cases h with
  | idle _ => exact hsound
  | refused e log _ => exact hsound.of_same rfl rfl
  | accepted a r log _ hperform => exact SingleStep.sound_write hsound hperform
  | listed log _ => exact hsound.of_same rfl rfl

theorem Serves.failpoints (h : t.Serves s out) : out.2.failpoints = s.failpoints := by
  cases h <;> rfl

theorem Serves.structures (h : t.Serves s out) :
    out.2.registry.structures = s.registry.structures := by
  cases h with
  | accepted a r log _ hperform => exact (Registry.frame_perform hperform).structures
  | _ => rfl

theorem Serves.group (h : t.Serves s out) (hsound : s.Sound) (spot : PortSide) :
    (out.2.registry.endpoint id spot).group = (s.registry.endpoint id spot).group := by
  cases h with
  | accepted a r log _ hperform => exact SingleStep.group_write hsound hperform id spot
  | _ => rfl

theorem ungrouped (h : t.Valid r) (hmerged : t.merged = false) :
    (r.endpoint id t.step.spot).group = none := by
  have := h.merged
  rw [hmerged] at this
  simpa using this.symm

theorem Serves.valid (h : t.Serves s out) (hsound : s.Sound) (hvalid : t.Valid s.registry) :
    out.1.Valid out.2.registry := by
  have hstructures := h.structures
  have hgroup := h.group hsound
  have hsound' := h.sound hsound
  have hsame := hvalid.of_same hstructures hgroup
  cases h with
  | idle _ => exact hsame
  | refused e log _ => exact ⟨hsame.ascends, hsame.merged, trivial⟩
  | accepted a r log _ hperform =>
    obtain ⟨record, hknown⟩ := SingleStep.known_write hperform
    refine ⟨hsame.ascends, hsame.merged, ⟨record, ?_⟩, _, rfl, hsound', ?_⟩
    · exact hstructures ▸ hknown
    · intro hmerged
      have hnone := ungrouped hvalid (show t.merged = false from hmerged)
      exact SingleStep.told_write hsound hperform hnone
  | listed log hfetching =>
    have hphase := hvalid.phase
    rw [hfetching] at hphase
    exact ⟨hsame.ascends, hsame.merged, hphase.1, _, rfl, hsound', rfl⟩

theorem Serves.same (h : t.Serves s out) (hsound : s.Sound) (hvalid : t.Valid s.registry) :
    t.sight.Same (out.2.registry.stored id) (s.registry.stored id) := by
  cases h with
  | accepted a r log _ hperform =>
    simp only [sight]
    split
    next => exact Sight.same_blind
    next hmerged =>
      exact SingleStep.same_write hsound hperform (ungrouped hvalid (by simpa using hmerged)) _
  | _ => exact .refl _ _

theorem Serves.due (h : t.Serves s out) (hsound : s.Sound) (hvalid : t.Valid s.registry)
    (hdue : t.Due g shown (s.registry.stored id)) :
    out.1.Due g shown (out.2.registry.stored id) := by
  obtain ⟨step, merged, before, phase, served⟩ := t
  cases h with
  | idle _ => exact hdue
  | refused e log hasked =>
    obtain rfl : phase = .asked := hasked
    exact hdue.1
  | accepted a r log hasked hperform =>
    obtain rfl : phase = .asked := hasked
    exact fun hmerged => (hdue.2 hmerged).settled hsound hperform (ungrouped hvalid hmerged)
  | listed log hfetching =>
    change g.Agrees (Occupancy.row (s.registry.listing id)) (s.registry.stored id)
    rw [Registry.row_listing_eq hsound.wellFormed.rowsAt]
    exact ⟨.refl _ _, fun _ => hsound.wellFormed.persisted_stored id⟩

theorem sight_of_origin {t' : Task id} (h : t'.origin = t.origin) : t'.sight = t.sight := by
  have hstep : t'.step = t.step := congrArg Prod.fst h
  have hmerged : t'.merged = t.merged := congrArg (·.2.1) h
  simp only [sight]
  rw [hstep, hmerged]

theorem isEnded_serve (t : Task id) (s : Server) : (t.serve s).1.isEnded = t.isEnded := by
  obtain ⟨step, merged, before, phase, served⟩ := t
  cases phase <;> rfl

theorem isEnded_lose (t : Task id) (failure : Failure) : (t.lose failure).isEnded = t.isEnded := by
  obtain ⟨step, merged, before, phase, served⟩ := t
  cases phase <;> rfl

theorem valid_lose (h : t.Valid r) (failure : Failure) : (t.lose failure).Valid r := by
  obtain ⟨step, merged, before, phase, served⟩ := t
  cases phase with
  | asked => exact ⟨h.ascends, h.merged, trivial⟩
  | fetching => exact ⟨h.ascends, h.merged, trivial⟩
  | _ => exact h

theorem due_lose (h : t.Due g shown kept) (failure : Failure)
    (hwrite : t.sent?.all Call.isWrite = true) : (t.lose failure).Due g shown kept := by
  obtain ⟨step, merged, before, phase, served⟩ := t
  cases phase with
  | asked => exact h.1
  | fetching => cases hwrite
  | _ => exact h

theorem valid_deliver (h : t.Valid r) (c : Client) : (t.deliver c).1.Valid r := by
  obtain ⟨step, merged, before, phase, served⟩ := t
  cases phase with
  | told answer =>
    rcases answer with e | a
    · exact ⟨h.ascends, h.merged, trivial⟩
    · cases merged with
      | true => exact ⟨h.ascends, h.merged, rfl, h.phase.1⟩
      | false => exact ⟨h.ascends, h.merged, trivial⟩
  | fetched answer => exact ⟨h.ascends, h.merged, trivial⟩
  | _ => exact h

theorem ascends_settle (hid : c.editor.structureId = some id)
    (h : Occupancy.Ascends c.editor.rows) {before : List Splice}
    (hbefore : Occupancy.Ascends before) (step : SingleStep) (answer : Except Failure Settlement)
    (hlisting : ∀ rows, answer = .ok (.listing rows) → Occupancy.Ascends rows) :
    Occupancy.Ascends (step.settle id before answer c).editor.rows ∧
      (step.settle id before answer c).editor.structureId = some id := by
  cases answer with
  | error e =>
    refine ⟨?_, (Client.structureId_apply rfl).trans hid⟩
    change Occupancy.Ascends (c.apply (.replaceRows id before)).editor.rows
    rw [Client.rows_replaceRows hid hbefore]
    exact hbefore
  | ok settlement =>
    refine ⟨?_, (Client.structureId_apply (settlement.scope_edit id)).trans hid⟩
    exact settlement.ascends_apply hid h fun rows heq => hlisting rows (congrArg Except.ok heq)

theorem deliver_editor (h : t.Valid r) (hid : c.editor.structureId = some id)
    (hascends : Occupancy.Ascends c.editor.rows) :
    Occupancy.Ascends (t.deliver c).2.editor.rows ∧
      (t.deliver c).2.editor.structureId = some id := by
  obtain ⟨step, merged, before, phase, served⟩ := t
  cases phase with
  | told answer =>
    rcases answer with e | a
    · exact ascends_settle hid hascends h.ascends step (.error e) fun _ heq => by cases heq
    · cases merged with
      | true => exact ⟨hascends, hid⟩
      | false =>
        refine ascends_settle hid hascends h.ascends step (.ok _) fun rows heq => ?_
        cases step <;> cases heq
  | fetched answer =>
    refine ascends_settle hid hascends h.ascends step (answer.map .listing) fun rows heq => ?_
    cases answer with
    | error e => cases heq
    | ok listed =>
      obtain rfl : listed = rows := Settlement.listing.inj (Except.ok.inj heq)
      obtain ⟨-, s, -, hsound, rfl⟩ := h.phase
      exact Registry.ascends_listing hsound.wellFormed.rowsAt id
  | _ => exact ⟨hascends, hid⟩

theorem due_deliver (h : t.Valid r) (hid : c.editor.structureId = some id)
    (hascends : Occupancy.Ascends c.editor.rows)
    (hdue : t.Due g (Occupancy.row c.editor.rows) kept) :
    (t.deliver c).1.Due g (Occupancy.row (t.deliver c).2.editor.rows) kept := by
  obtain ⟨step, merged, before, phase, served⟩ := t
  have hrestored : Occupancy.row (c.apply (.replaceRows id before)).editor.rows =
      Occupancy.row before := by rw [Client.rows_replaceRows hid h.ascends]
  cases phase with
  | told answer =>
    rcases answer with e | a
    · change g.Agrees (Occupancy.row (c.apply (.replaceRows id before)).editor.rows) kept
      rw [hrestored]
      exact hdue
    · cases merged with
      | true => trivial
      | false =>
        change g.Agrees (Occupancy.row
          (c.apply ((step.settlement id a).edit id)).editor.rows) kept
        rw [Settlement.row_apply hid hascends fun rows heq => by cases step <;> cases heq]
        exact hdue rfl
  | fetched answer =>
    cases answer with
    | error e => exact hdue.elim
    | ok rows =>
      obtain ⟨-, s, -, hsound, rfl⟩ := h.phase
      change g.Agrees (Occupancy.row (c.apply (.replaceRows id _)).editor.rows) kept
      rw [Client.rows_replaceRows hid (Registry.ascends_listing hsound.wellFormed.rowsAt id)]
      exact hdue
  | _ => exact hdue

theorem deliver_of_pending (h : (t.deliver c).1.isEnded = false) :
    (t.deliver c).2 = c ∧ t.isEnded = false := by
  obtain ⟨step, merged, before, phase, served⟩ := t
  cases phase with
  | told answer =>
    rcases answer with e | a
    · cases h
    · cases merged with
      | true => exact ⟨rfl, rfl⟩
      | false => cases h
  | fetched answer => cases h
  | ended reported => cases h
  | _ => exact ⟨rfl, rfl⟩

structure Acts (t t' : Task id) (c c' : Client) (s s' : Server) : Prop where
  origin : t'.origin = t.origin
  valid : t'.Valid s'.registry
  selected : c'.editor.structureId = some id
  ascends : Occupancy.Ascends c'.editor.rows
  sound : s'.Sound
  failpoints : s'.failpoints = s.failpoints
  structures : s'.registry.structures = s.registry.structures
  group : ∀ spot, (s'.registry.endpoint id spot).group = (s.registry.endpoint id spot).group
  due : ∀ g, t.Due g (Occupancy.row c.editor.rows) (s.registry.stored id) →
    t'.Due g (Occupancy.row c'.editor.rows) (s'.registry.stored id)
  same : t.sight.Same (s'.registry.stored id) (s.registry.stored id)
  pending : t'.isEnded = false → c' = c ∧ t.isEnded = false

end Task

end CrossConnect
