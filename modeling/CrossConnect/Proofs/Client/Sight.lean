import CrossConnect.Client.Assign
import CrossConnect.Proofs.Client.Edit
import CrossConnect.Proofs.Registry.Listing

/-!
Rows compared up to the fiber of one port side. The edit and the write of an operation change only
that fiber, so that neither is seen once it is out of sight.
-/
namespace CrossConnect

/-- The row without a fiber on one side; none when nothing else is on it. -/
def bare (side : Side) (row : Option Splice) : Option Splice :=
  (row.map (·.setFiber side none)).filter (!·.isEmpty)

section bare

variable {side other : Side} {row : Option Splice} {r : Splice}

theorem setFiber_comm (r : Splice) (side other : Side) :
    (r.setFiber side none).setFiber other none = (r.setFiber other none).setFiber side none := by
  cases side <;> cases other <;> rfl

theorem isEmpty_setFiber (h : r.isEmpty = true) : (r.setFiber side none).isEmpty = true := by
  rw [Splice.isEmpty_iff] at h ⊢
  intro s
  have hs := h s
  simp only [Splice.setFiber, Splice.endpoint_mapEndpoint]
  split
  · simp_all [Endpoint.isVacant]
  · exact hs

theorem bare_some : bare side (some r) =
    if (r.setFiber side none).isEmpty then none else some (r.setFiber side none) := by
  simp only [bare, Option.map_some, Option.filter_some]
  by_cases h : (r.setFiber side none).isEmpty = true <;> simp [h]

theorem bare_setFiber (fiber : Option Termination) :
    bare side (some (r.setFiber side fiber)) = bare side (some r) := by
  rw [bare_some, bare_some, Splice.setFiber_setFiber]

theorem bare_of_isEmpty (h : r.isEmpty = true) : bare side (some r) = none := by
  rw [bare_some, if_pos (isEmpty_setFiber h)]

theorem bare_filter (side : Side) (row : Option Splice) :
    bare side (row.filter (!·.isEmpty)) = bare side row := by
  cases row with
  | none => rfl
  | some r =>
    by_cases h : r.isEmpty = true
    · rw [bare_of_isEmpty h, Option.filter_some, h]
      rfl
    · rw [Option.filter_some]
      simp [h]

theorem bare_map (side : Side) (row : Option Splice) :
    bare side (row.map (·.setFiber side none)) = bare side row := by
  cases row with
  | none => rfl
  | some r => exact bare_setFiber none

theorem bare_comm (side other : Side) (row : Option Splice) :
    bare side (bare other row) = bare other (bare side row) := by
  have h : ∀ s s', bare s (bare s' row) = ((row.map (·.setFiber s' none)).map
      (·.setFiber s none)).filter (!·.isEmpty) := fun s s' => bare_filter s _
  rw [h, h]
  cases row with
  | none => rfl
  | some r => simp only [Option.map_some, setFiber_comm r side other]

theorem bare_bare (side : Side) (row : Option Splice) : bare side (bare side row) = bare side row :=
  (bare_filter side _).trans (bare_map side row)

theorem bare_of_vacant (hvacant : row.bind (·.fiber side) = none)
    (hfilled : ∀ r ∈ row, r.isEmpty = false) : bare side row = row := by
  cases row with
  | none => rfl
  | some r =>
    have hsame : r.setFiber side none = r := by
      obtain ⟨rowId, structureId, port, ⟨fiberA, groupA, spanA⟩, ⟨fiberB, groupB, spanB⟩⟩ := r
      cases side <;> cases hvacant <;> rfl
    rw [bare_some, hsame, hfilled r rfl]
    rfl

theorem bare_opened (h : r.isEmpty = true) (row : Option Splice) (fiber : Option Termination) :
    bare side (some ((row.getD r).setFiber side fiber)) = bare side row := by
  rw [bare_setFiber]
  cases row with
  | none => exact bare_of_isEmpty h
  | some r' => rfl

end bare

/-! ### Port by port -/

def hide (spot : PortSide) (rows : PortNumber → Option Splice) (port : PortNumber) :
    Option Splice :=
  if port = spot.port then bare spot.side (rows port) else rows port

theorem hide_hide (spot : PortSide) (rows : PortNumber → Option Splice) :
    hide spot (hide spot rows) = hide spot rows := by
  funext port
  by_cases hport : port = spot.port
  · simp only [hide, if_pos hport, bare_bare]
  · simp only [hide, if_neg hport]

def Persisted (rows : PortNumber → Option Splice) : Prop :=
  ∀ port, ∀ r ∈ rows port, r.id.isTemporary = false

/-- What of a row is seen at each port, and whether temporary rows are noticed. -/
structure Sight where
  see : PortNumber → Option Splice → Option Splice
  notices : Prop
  see_bare : ∀ port side row, see port (bare side row) = bare side (see port row)
  see_filter : ∀ port, (∀ row, see port row = row) ∨
    ∀ row, see port (row.filter (!·.isEmpty)) = see port row

namespace Sight

def full : Sight where
  see _ row := row
  notices := True
  see_bare _ _ _ := rfl
  see_filter _ := .inl fun _ => rfl

def blind : Sight where
  see _ _ := none
  notices := False
  see_bare _ _ _ := rfl
  see_filter _ := .inr fun _ => rfl

def past (spot : PortSide) (notices : Prop) : Sight where
  see port row := if port = spot.port then bare spot.side row else row
  notices := notices
  see_bare port side row := by
    by_cases h : port = spot.port
    · simp only [if_pos h, bare_comm]
    · simp only [if_neg h]
  see_filter port := by
    by_cases h : port = spot.port
    · simp only [if_pos h, bare_filter, implies_true, or_true]
    · simp only [if_neg h, implies_true, true_or]

variable {g : Sight} {u v w kept kept' : PortNumber → Option Splice} {spot : PortSide}
  {notices : Prop}

def Same (g : Sight) (v w : PortNumber → Option Splice) : Prop :=
  ∀ port, g.see port (v port) = g.see port (w port)

theorem Same.refl (g : Sight) (v : PortNumber → Option Splice) : g.Same v v :=
  fun _ => rfl

theorem Same.symm (h : g.Same v w) : g.Same w v :=
  fun port => (h port).symm

theorem Same.trans (h : g.Same u v) (h' : g.Same v w) : g.Same u w :=
  fun port => (h port).trans (h' port)

theorem same_blind : blind.Same v w :=
  fun _ => rfl

theorem same_full : full.Same v w ↔ v = w :=
  ⟨fun h => funext h, fun h => h ▸ .refl full v⟩

theorem same_past : (past spot notices).Same v w ↔ hide spot v = hide spot w :=
  ⟨fun h => funext h, fun h port => congrFun h port⟩

theorem Same.of_full (h : full.Same v w) (g : Sight) : g.Same v w := by
  rw [same_full.1 h]
  exact .refl g w

theorem see_hide (g : Sight) (spot : PortSide) (v : PortNumber → Option Splice)
    (port : PortNumber) :
    g.see port (hide spot v port) = hide spot (fun port => g.see port (v port)) port := by
  by_cases h : port = spot.port
  · simp only [hide, if_pos h, g.see_bare]
  · simp only [hide, if_neg h]

theorem Same.hidden (h : g.Same v w) (spot : PortSide) : g.Same (hide spot v) (hide spot w) := by
  intro port
  rw [see_hide, see_hide, funext h]

theorem Same.filter (h : g.Same v kept) (hfilled : ∀ port, ∀ r ∈ kept port, r.isEmpty = false) :
    g.Same (fun port => (v port).filter (!·.isEmpty)) v := by
  intro port
  rcases g.see_filter port with hsees | hdrops
  · have hv : v port = kept port := by rw [← hsees (v port), h port, hsees]
    dsimp only
    rw [hv]
    cases hkept : kept port with
    | none => rfl
    | some r =>
      rw [Option.filter_some, hfilled port r hkept]
      rfl
  · exact hdrops _

def Agrees (g : Sight) (v kept : PortNumber → Option Splice) : Prop :=
  g.Same v kept ∧ (g.notices → Persisted v)

theorem Agrees.of_same (h : g.Agrees v kept) (hkept : g.Same kept kept') : g.Agrees v kept' :=
  ⟨h.1.trans hkept, h.2⟩

theorem Agrees.of_full (h : full.Agrees v kept) (g : Sight) : g.Agrees v kept :=
  ⟨h.1.of_full g, fun _ => h.2 trivial⟩

end Sight

/-! ### Settlements -/

def Settlement.fold (rows : PortNumber → Option Splice) : Settlement → PortNumber → Option Splice
  | row r => fun port => if port = r.port then some r else rows port
  | listing listed => Occupancy.row listed
  | prune => fun port => (rows port).filter (!·.isEmpty)

section settlements

variable {g : Sight} {v w : PortNumber → Option Splice} {settlement : Settlement}

theorem Sight.Same.fold (h : g.Same v w) (settlement : Settlement) :
    g.Same (settlement.fold v) (settlement.fold w) := by
  intro port
  cases settlement with
  | row r =>
    dsimp only [Settlement.fold]
    split
    · rfl
    · exact h port
  | listing rows => rfl
  | prune =>
    dsimp only [Settlement.fold]
    rcases g.see_filter port with hsees | hdrops
    · have hrow : v port = w port := by rw [← hsees (v port), h port, hsees]
      rw [hrow]
    · rw [hdrops, hdrops, h port]

def Stems (rows' rows : PortNumber → Option Splice) : Prop :=
  ∀ port, ∀ r' ∈ rows' port, ∃ r ∈ rows port, r.id = r'.id ∧ (r.isEmpty = true → r'.isEmpty = true)

theorem Stems.fold {rows' rows : PortNumber → Option Splice} (h : Stems rows' rows)
    (settlement : Settlement) : Stems (settlement.fold rows') (settlement.fold rows) := by
  intro port r' hrow
  cases settlement with
  | listing listed => exact ⟨r', hrow, rfl, fun hempty => hempty⟩
  | row row =>
    have hrow : (if port = row.port then some row else rows' port) = some r' := hrow
    change ∃ r ∈ (if port = row.port then some row else rows port), _
    split at hrow
    next hport =>
      rw [if_pos hport]
      exact ⟨r', hrow, rfl, fun hempty => hempty⟩
    next hport =>
      rw [if_neg hport]
      exact h port r' hrow
  | prune =>
    have hrow : (rows' port).filter (!·.isEmpty) = some r' := hrow
    obtain ⟨hrow, hfilled⟩ := Option.filter_eq_some_iff.1 hrow
    obtain ⟨r, hr, hsame, hempty⟩ := h port r' hrow
    refine ⟨r, Option.filter_eq_some_iff.2 ⟨hr, ?_⟩, hsame, hempty⟩
    by_contra hnot
    simp_all

theorem Stems.persisted {rows' rows : PortNumber → Option Splice} (h : Stems rows' rows)
    (hrows : Persisted rows) : Persisted rows' := by
  intro port r' hrow
  obtain ⟨r, hr, hsame, -⟩ := h port r' hrow
  rw [← hsame]
  exact hrows port r hr

theorem Sight.Agrees.of_stems {kept : PortNumber → Option Splice} (h : full.Agrees v kept)
    (hsame : g.Same w v) (hstems : g.notices → Stems w v) : g.Agrees w kept :=
  ⟨hsame.trans (h.1.of_full g), fun hnotices => (hstems hnotices).persisted (h.2 trivial)⟩

variable {c : Client} {id : StructureId}

theorem Settlement.row_apply (hid : c.editor.structureId = some id)
    (h : Occupancy.Ascends c.editor.rows)
    (hlisting : ∀ rows, settlement = .listing rows → Occupancy.Ascends rows) :
    Occupancy.row (c.apply (settlement.edit id)).editor.rows =
      settlement.fold (Occupancy.row c.editor.rows) := by
  funext port
  cases settlement with
  | row r => exact Client.row_confirm hid h
  | listing rows =>
    exact congrArg (Occupancy.row · port) (Client.rows_replaceRows hid (hlisting rows rfl))
  | prune => exact Client.row_prune hid h

theorem Settlement.ascends_apply (hid : c.editor.structureId = some id)
    (h : Occupancy.Ascends c.editor.rows)
    (hlisting : ∀ rows, settlement = .listing rows → Occupancy.Ascends rows) :
    Occupancy.Ascends (c.apply (settlement.edit id)).editor.rows := by
  cases settlement with
  | row r => exact Client.ascends_confirm hid h
  | listing rows =>
    have hrows : (c.apply (.replaceRows id rows)).editor.rows = rows :=
      Client.rows_replaceRows hid (hlisting rows rfl)
    change Occupancy.Ascends (c.apply (.replaceRows id rows)).editor.rows
    rw [hrows]
    exact hlisting rows rfl
  | prune => exact Client.ascends_prune hid h

end settlements

/-! ### Edits and writes -/

def Registry.stored (r : Registry) (id : StructureId) (port : PortNumber) : Option Splice :=
  r.rows.find? (id, port)

theorem Registry.row_listing_eq {r : Registry} (h : r.RowsAt) (id : StructureId) :
    Occupancy.row (r.listing id) = r.stored id :=
  funext fun port => Registry.row_listing h id port

theorem Registry.WellFormed.persisted_stored {r : Registry} {limits : Limits}
    (h : r.WellFormed limits) (id : StructureId) : Persisted (r.stored id) :=
  fun _ _ hrow => (h.row_at hrow).2.2

theorem Registry.WellFormed.filled_stored {r : Registry} {limits : Limits} (h : r.WellFormed limits)
    (id : StructureId) : ∀ port, ∀ row ∈ r.stored id port, row.isEmpty = false :=
  fun _ _ hrow => h.row_filled hrow

namespace Sight

open Occupancy

section client

variable {c : Client} {id : StructureId} {spot : PortSide} {notices : Prop}

theorem same_place (fiber : Termination) (hid : c.editor.structureId = some id)
    (h : Ascends c.editor.rows) (hnone : groupOf c.editor.rows spot = none) :
    (past spot notices).Same (row (c.apply (.place id spot fiber)).editor.rows)
      (row c.editor.rows) := by
  intro port
  rw [Client.row_place hid h hnone]
  by_cases hport : port = spot.port
  · subst hport
    simp only [past, if_true]
    exact bare_opened rfl _ _
  · rw [if_neg hport]

theorem same_vacate (hid : c.editor.structureId = some id)
    (hnone : groupOf c.editor.rows spot = none) :
    (past spot notices).Same (row (c.apply (.vacate id spot)).editor.rows) (row c.editor.rows) := by
  intro port
  rw [Client.row_vacate hid hnone]
  by_cases hport : port = spot.port
  · simp only [past, if_pos hport, bare_map]
  · simp only [if_neg hport, Option.map_id']

end client

section registry

variable {r r' : Registry} {limits : Limits} {id : StructureId} {spot : PortSide} {notices : Prop}

theorem stored_place (h : r.WellFormed limits) {p : Placement} {row : Splice}
    (hplace : r.place p = .ok (row, r')) (hnone : (r.endpoint p.structureId p.spot).group = none) :
    r'.stored p.structureId = (Settlement.row row).fold (r.stored p.structureId) ∧
      row.port = p.spot.port := by
  have hport : row.port = p.spot.port :=
    ((h.place hplace).rowsAt (h.place_eq_ok hplace).2.1).2.1
  refine ⟨funext fun port => ?_, hport⟩
  dsimp only [Settlement.fold]
  rw [hport]
  exact h.find?_place hplace hnone port

theorem stored_clear (h : r.WellFormed limits) {outcome : ClearOutcome}
    (hclear : r.clear id spot = .ok (outcome, r')) (hnone : (r.endpoint id spot).group = none) :
    r'.stored id = hide spot (r.stored id) :=
  funext fun port => h.find?_clear hclear hnone port

theorem same_stored_place (h : r.WellFormed limits) {p : Placement} {row : Splice}
    (hplace : r.place p = .ok (row, r')) (hnone : (r.endpoint p.structureId p.spot).group = none) :
    (past p.spot notices).Same (r'.stored p.structureId) (r.stored p.structureId) := by
  intro port
  by_cases hport : port = p.spot.port
  · obtain ⟨-, -, fiber, -, rfl⟩ := h.place_eq_ok hplace
    have hmem : port ∈ r.fanOut p.structureId p.spot := hport ▸ Registry.mem_fanOut_self ..
    obtain ⟨uuid, hrow⟩ := Registry.find?_writeEndpoints_of_mem r p.structureId p.spot.side
      (fun _ e => { e with fiber := some fiber }) h.nodup_fanOut hmem
    simp only [past, if_pos hport, Registry.stored]
    rw [hrow]
    exact bare_opened rfl _ _
  · rw [(stored_place h hplace hnone).1]
    simp only [Settlement.fold, (stored_place h hplace hnone).2, if_neg hport]

theorem same_stored_clear (h : r.WellFormed limits) {outcome : ClearOutcome}
    (hclear : r.clear id spot = .ok (outcome, r')) (hnone : (r.endpoint id spot).group = none) :
    (past spot notices).Same (r'.stored id) (r.stored id) := by
  rw [stored_clear h hclear hnone]
  exact same_past.2 (hide_hide spot _)

end registry

variable {g : Sight} {v kept : PortNumber → Option Splice} {spot : PortSide}

theorem Same.fold_row {r : Splice} (h : g.Same (hide spot v) (hide spot kept))
    (hport : r.port = spot.port) :
    g.Same ((Settlement.row r).fold v) ((Settlement.row r).fold kept) := by
  intro port
  have hsame := h port
  dsimp only [Settlement.fold]
  by_cases hp : port = spot.port
  · rw [if_pos (hp.trans hport.symm), if_pos (hp.trans hport.symm)]
  · have hne : port ≠ r.port := fun heq => hp (heq.trans hport)
    simp only [hide, if_neg hp] at hsame
    rw [if_neg hne, if_neg hne, hsame]

end Sight
end CrossConnect
