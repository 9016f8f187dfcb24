import CrossConnect.Proofs.Registry.Transition

/-!
Identities of rows. A row that stands keeps its own and a row that is made gets one that was just
drawn, so no two rows ever share one; and where all that is recorded comes back, the rows come back
with their identities, unless one was dropped in between.
-/
namespace CrossConnect

namespace Registry

variable {r r₁ r' : Registry} {id : StructureId} {side : Side} {port : PortNumber}
  {ports : List PortNumber} {limits : Limits}

/-! ### Rows that stay -/

def OnlyKept (r r' : Registry) : Prop :=
  ∀ ⦃place row'⦄, r'.rows.find? place = some row' →
    ∃ row, r.rows.find? place = some row ∧ row'.id = row.id

theorem OnlyKept.refl (r : Registry) : OnlyKept r r :=
  fun _ row hrow => ⟨row, hrow, rfl⟩

theorem OnlyKept.prune (h : OnlyKept r r') (id : StructureId) : OnlyKept r (r'.prune id) := by
  intro place row hrow
  rw [find?_prune, Option.filter_eq_some_iff] at hrow
  exact h hrow.1

theorem onlyKept_vacated (hrows : r'.rows = r.vacated id side ports) : OnlyKept r r' := by
  rintro ⟨other, port⟩ row' hrow'
  rw [hrows, find?_vacated] at hrow'
  obtain ⟨row, hrow, rfl⟩ := Option.map_eq_some_iff.1 hrow'
  refine ⟨row, hrow, ?_⟩
  split
  · exact Splice.id_mapEndpoint ..
  · rfl

theorem onlyKept_opened (r : Registry) (id : StructureId) (side : Side) (f : Endpoint → Endpoint)
    (port : PortNumber) : OnlyKept (r.openRow id port).2 (r.writeEndpoint id side f port) := by
  have hopened : (r.openRow id port).2.rows.find? (id, port) = some (r.openRow id port).1 := by
    cases hfind : r.rows.find? (id, port) with
    | some row =>
      rw [openRow_of_row hfind]
      exact hfind
    | none =>
      rw [openRow_of_no_row hfind]
      exact (Table.find?_insert ..).trans (if_pos rfl)
  intro place row hrow
  have hrow : ((r.openRow id port).2.rows.insert (id, port)
      ((r.openRow id port).1.mapEndpoint side f)).find? place = some row := hrow
  rw [Table.find?_insert] at hrow
  split at hrow
  next hplace =>
    obtain rfl := Option.some.inj hrow
    exact ⟨_, hplace ▸ hopened, Splice.id_mapEndpoint ..⟩
  next => exact ⟨row, hrow, rfl⟩

/-! ### Rows that are made -/

def DrawnSince (r r' : Registry) (id : RowId) : Prop :=
  ∃ n, r.ids.drawn ≤ n ∧ n < r'.ids.drawn ∧ id = .persisted (r'.ids.draw n)

theorem DrawnSince.mono_left {id : RowId} (h : DrawnSince r₁ r' id) (hframe : Frame r r₁) :
    DrawnSince r r' id := by
  obtain ⟨n, hlow, hhigh, hid⟩ := h
  exact ⟨n, hframe.drawn.trans hlow, hhigh, hid⟩

theorem DrawnSince.mono_right {id : RowId} (h : DrawnSince r r₁ id) (hframe : Frame r₁ r') :
    DrawnSince r r' id := by
  obtain ⟨n, hlow, hhigh, hid⟩ := h
  exact ⟨n, hlow, hhigh.trans_le hframe.drawn, by rw [hframe.draw, hid]⟩

/-- Every row has the identity of the row that stood in its place before, or one drawn since. -/
def Inherits (r r' : Registry) : Prop :=
  ∀ ⦃place row'⦄, r'.rows.find? place = some row' →
    (∃ row, r.rows.find? place = some row ∧ row'.id = row.id) ∨ DrawnSince r r' row'.id

theorem OnlyKept.inherits (h : OnlyKept r r') : Inherits r r' :=
  fun _ _ hrow => .inl (h hrow)

theorem Inherits.trans (h : Inherits r r₁) (h' : Inherits r₁ r') (hframe : Frame r r₁)
    (hframe' : Frame r₁ r') : Inherits r r' := by
  intro place row' hrow'
  rcases h' hrow' with ⟨row₁, hrow₁, hid⟩ | hsince
  · rcases h hrow₁ with ⟨row, hrow, hid₁⟩ | hsince
    · exact .inl ⟨row, hrow, hid.trans hid₁⟩
    · exact .inr (hid ▸ hsince.mono_right hframe')
  · exact .inr (hsince.mono_left hframe)

theorem inherits_openRow (r : Registry) (id : StructureId) (port : PortNumber) :
    Inherits r (r.openRow id port).2 := by
  cases hfind : r.rows.find? (id, port) with
  | some row =>
    rw [openRow_of_row hfind]
    exact (OnlyKept.refl r).inherits
  | none =>
    rw [openRow_of_no_row hfind]
    intro place row hrow
    rw [Table.find?_insert] at hrow
    split at hrow
    next =>
      obtain rfl := Option.some.inj hrow
      exact .inr ⟨r.ids.drawn, le_rfl, Nat.lt_succ_self _, rfl⟩
    next => exact .inl ⟨row, hrow, rfl⟩

theorem inherits_writeEndpoints (r : Registry) (id : StructureId) (side : Side)
    (f : PortNumber → Endpoint → Endpoint) (ports : List PortNumber) :
    Inherits r (r.writeEndpoints id side f ports) := by
  induction ports generalizing r with
  | nil => exact (OnlyKept.refl r).inherits
  | cons port ports ih =>
    have hwritten : Inherits r (r.writeEndpoint id side (f port) port) :=
      (inherits_openRow r id port).trans (onlyKept_opened r id side (f port) port).inherits
        (frame_openRow ..) ⟨rfl, rfl, rfl, rfl, le_rfl⟩
    exact hwritten.trans (ih _) (frame_writeEndpoint ..) (frame_writeEndpoints ..)

theorem ids_writeEndpoints (f : PortNumber → Endpoint → Endpoint)
    (hrows : ∀ port ∈ ports, (r.rows.find? (id, port)).isSome = true) :
    (r.writeEndpoints id side f ports).ids = r.ids := by
  induction ports generalizing r with
  | nil => rfl
  | cons first ports ih =>
    have hfirst : (r.writeEndpoint id side (f first) first).ids = r.ids := by
      obtain ⟨row, hrow⟩ := Option.isSome_iff_exists.1 (hrows first List.mem_cons_self)
      simp only [writeEndpoint, openRow_of_row hrow]
    rw [writeEndpoints_cons, ih, hfirst]
    intro port hport
    rw [find?_writeEndpoint]
    split
    · rfl
    · exact hrows port (List.mem_cons_of_mem _ hport)

/-! ### No identity twice -/

/-- The identity of every row was drawn, and no two rows have the same one. -/
structure RowsDrawn (r : Registry) : Prop where
  drawn : ∀ ⦃place row⦄, r.rows.find? place = some row →
    ∃ n < r.ids.drawn, row.id = .persisted (r.ids.draw n)
  apart : ∀ ⦃place place' row row'⦄, r.rows.find? place = some row →
    r.rows.find? place' = some row' → row.id = row'.id → place = place'

namespace RowsDrawn

theorem of_empty (hrows : r.rows = .empty) : r.RowsDrawn := by
  have hnone : ∀ place, r.rows.find? place = none := fun place => by rw [hrows]; rfl
  constructor <;> simp [hnone]

theorem of_onlyKept (h : r.RowsDrawn) (hkept : OnlyKept r r') (hframe : Frame r r') :
    r'.RowsDrawn := by
  constructor
  · intro place row' hrow'
    obtain ⟨row, hrow, hid⟩ := hkept hrow'
    obtain ⟨n, hn, hdrawn⟩ := h.drawn hrow
    exact ⟨n, hn.trans_le hframe.drawn, by rw [hid, hdrawn, hframe.draw]⟩
  · intro place place' row₁ row₂ hrow₁ hrow₂ heq
    obtain ⟨old₁, hold₁, hid₁⟩ := hkept hrow₁
    obtain ⟨old₂, hold₂, hid₂⟩ := hkept hrow₂
    exact h.apart hold₁ hold₂ (hid₁.symm.trans (heq.trans hid₂))

theorem ne_of_drawnSince (h : r.RowsDrawn) (hframe : Frame r r') (hids : r'.ids.Distinct)
    {rowId : RowId} (hsince : DrawnSince r r' rowId) {place : StructureId × PortNumber}
    {row : Splice} (hrow : r.rows.find? place = some row) : row.id ≠ rowId := by
  rintro rfl
  obtain ⟨n, hlow, hhigh, hid⟩ := hsince
  obtain ⟨m, hm, hdrawn⟩ := h.drawn hrow
  rw [hdrawn, ← hframe.draw] at hid
  have := hids m (hm.trans_le hframe.drawn) n hhigh (RowId.persisted.inj hid)
  omega

theorem openRow (h : r.RowsDrawn) (hids : (r.openRow id port).2.ids.Distinct) :
    (r.openRow id port).2.RowsDrawn := by
  cases hfind : r.rows.find? (id, port) with
  | some row =>
    rw [openRow_of_row hfind]
    exact h
  | none =>
    have hframe := frame_openRow r id port
    rw [openRow_of_no_row hfind] at hids hframe ⊢
    have hnew : ∀ {place row}, r.rows.find? place = some row → row.id ≠ .persisted r.ids.next.1 :=
      h.ne_of_drawnSince hframe hids ⟨r.ids.drawn, le_rfl, Nat.lt_succ_self _, rfl⟩
    constructor
    · intro place row hrow
      rw [Table.find?_insert] at hrow
      split at hrow
      next =>
        obtain rfl := Option.some.inj hrow
        exact ⟨r.ids.drawn, Nat.lt_succ_self _, rfl⟩
      next =>
        obtain ⟨n, hn, hid⟩ := h.drawn hrow
        exact ⟨n, Nat.lt_succ_of_lt hn, hid⟩
    · intro place place' row row' hrow hrow' heq
      rw [Table.find?_insert] at hrow hrow'
      split at hrow
      next hplace =>
        obtain rfl := Option.some.inj hrow
        split at hrow'
        next hplace' => exact hplace.trans hplace'.symm
        next => exact absurd heq.symm (hnew hrow')
      next =>
        split at hrow'
        next =>
          obtain rfl := Option.some.inj hrow'
          exact absurd heq (hnew hrow)
        next => exact h.apart hrow hrow' heq

theorem writeEndpoints (h : r.RowsDrawn) (f : PortNumber → Endpoint → Endpoint)
    (hids : (r.writeEndpoints id side f ports).ids.Distinct) :
    (r.writeEndpoints id side f ports).RowsDrawn := by
  induction ports generalizing r with
  | nil => exact h
  | cons port ports ih =>
    have hdistinct : (r.writeEndpoint id side (f port) port).ids.Distinct :=
      (frame_writeEndpoints ..).distinct hids
    have hwritten := (h.openRow hdistinct).of_onlyKept (onlyKept_opened r id side (f port) port)
      ⟨rfl, rfl, rfl, rfl, le_rfl⟩
    exact ih hwritten hids

theorem merge {key : MergeGroupId} (h : r.RowsDrawn)
    (hmerge : r.merge limits id ports side = .ok (key, r')) (hids : r'.ids.Distinct) :
    r'.RowsDrawn := by
  obtain ⟨sorted, -, -, -, rfl⟩ := merge_eq_ok hmerge
  refine RowsDrawn.writeEndpoints ?_ _ hids
  exact h.of_onlyKept (OnlyKept.refl r) ⟨rfl, rfl, rfl, rfl, Nat.le_succ _⟩

theorem unmerge {key : MergeGroupId} (h : r.RowsDrawn) (hunmerge : r.unmerge key ports = .ok r')
    (hids : r'.ids.Distinct) : r'.RowsDrawn := by
  obtain ⟨group, -, -, rfl⟩ := unmerge_eq_ok hunmerge
  have hwritten := h.writeEndpoints group.keepFirst hids
  exact hwritten.of_onlyKept ((OnlyKept.refl _).prune group.structureId)
    ⟨rfl, rfl, rfl, rfl, le_rfl⟩

theorem perform (h : r.RowsDrawn) {call : Call} {a : call.Answer}
    (hperform : r.perform limits call = .ok (a, r')) (hids : r'.ids.Distinct) : r'.RowsDrawn := by
  cases call with
  | portsOf | rowsOf | fibersOf =>
    obtain rfl := perform_read rfl hperform
    exact h
  | place p =>
    obtain ⟨-, fiber, -, heq⟩ := place_eq_ok hperform
    obtain ⟨-, rfl⟩ := Prod.mk.inj heq
    exact (h.writeEndpoints _ ((frame_openRow ..).distinct hids)).openRow hids
  | clear id spot =>
    have hframe := frame_clear hperform
    obtain ⟨-, rfl⟩ := clear_eq_ok hperform
    exact h.of_onlyKept ((onlyKept_vacated rfl).prune id) hframe
  | merge id ports side =>
    obtain ⟨⟨key, _⟩, hmerge, heq⟩ := map_eq_ok.1 hperform
    obtain rfl := (Prod.mk.inj heq).2
    exact h.merge hmerge hids
  | unmerge key ports =>
    obtain ⟨_, hunmerge, heq⟩ := map_eq_ok.1 hperform
    obtain rfl := (Prod.mk.inj heq).2
    exact h.unmerge hunmerge hids
  | upload key side fibers =>
    obtain ⟨_, hupload, heq⟩ := map_eq_ok.1 hperform
    obtain rfl := (Prod.mk.inj heq).2
    obtain ⟨group, -, -, -, -, -, shown, -, rfl⟩ := upload_eq_ok hupload
    have hwritten := h.writeEndpoints (fun _ e => { e with fiber := shown.head? }) hids
    exact hwritten.of_onlyKept (OnlyKept.refl _) ⟨rfl, rfl, rfl, rfl, le_rfl⟩

end RowsDrawn

/-! ### Rows that come back -/

def KeepsRows (r r' : Registry) : Prop :=
  ∀ place, (r.rows.find? place).isSome = true → (r'.rows.find? place).isSome = true

theorem KeepsIds.trans (h : KeepsIds r r₁) (hrows : KeepsRows r r₁) (h' : KeepsIds r₁ r') :
    KeepsIds r r' := by
  intro other port row row' hrow hrow'
  obtain ⟨row₁, hrow₁⟩ := Option.isSome_iff_exists.1 (hrows (other, port) (by rw [hrow]; rfl))
  exact (h' hrow₁ hrow').trans (h hrow hrow₁)

theorem WellFormed.find?_congr {limits' : Limits} (h : r.WellFormed limits)
    (h' : r'.WellFormed limits') (hids : KeepsIds r r')
    (hends : ∀ side, r'.endpoint id ⟨port, side⟩ = r.endpoint id ⟨port, side⟩) :
    r'.rows.find? (id, port) = r.rows.find? (id, port) := by
  have hiff : (r'.rows.find? (id, port)).isSome = true ↔
      (r.rows.find? (id, port)).isSome = true := by
    rw [h'.row_iff, h.row_iff]
    simp only [hends]
  cases hrow : r.rows.find? (id, port) with
  | none =>
    rw [hrow] at hiff
    exact Option.not_isSome_iff_eq_none.1 fun hsome => nomatch hiff.1 hsome
  | some row =>
    obtain ⟨row', hrow'⟩ := Option.isSome_iff_exists.1 (hiff.2 (by rw [hrow]; rfl))
    obtain ⟨hid, hport, -⟩ := h.row_at hrow
    obtain ⟨hid', hport', -⟩ := h'.row_at hrow'
    have hsides : ∀ side, row'.endpoint side = row.endpoint side := fun side =>
      (endpoint_of_row hrow').symm.trans ((hends side).trans (endpoint_of_row hrow))
    have hsame := hids hrow hrow'
    have ha := hsides .a
    have hb := hsides .b
    obtain ⟨rowId, structureId, port, a, b⟩ := row
    obtain ⟨rowId', structureId', port', a', b'⟩ := row'
    simp only [Splice.endpoint] at ha hb hsame hid hid' hport hport'
    subst ha hb hsame hid hid' hport
    rw [hrow', hport']

namespace Rewrites

variable {touched touched' : PortNumber → Prop} {change change' : PortNumber → Endpoint → Endpoint}
  {recorded recorded' : MergeGroupId → Prop}

theorem keepsRows (h : r.Rewrites r' id side touched change recorded) (hr : r.WellFormed limits)
    (hfilled : ∀ port e, e.isVacant = false → (change port e).isVacant = false) :
    KeepsRows r r' := by
  rintro ⟨other, port⟩ hsome
  rw [hr.row_iff] at hsome
  rw [h.row_iff]
  obtain ⟨side', hside'⟩ := hsome
  refine ⟨side', ?_⟩
  by_cases htouched : other = id ∧ side' = side ∧ touched port
  · obtain ⟨rfl, rfl, htouched⟩ := htouched
    rw [h.endpoint_touched port htouched]
    exact hfilled port _ hside'
  · rw [h.endpoint_kept _ _ htouched]
    exact hside'

theorem trans (h : r.Rewrites r₁ id side touched change recorded) (hrows : KeepsRows r r₁)
    (h' : r₁.Rewrites r' id side touched' change' recorded')
    (hsame : ∀ port, touched' port ↔ touched port) :
    r.Rewrites r' id side touched (fun port e => change' port (change port e))
      fun key => recorded key ∨ recorded' key where
  frame := h.frame.trans h'.frame
  endpoint_touched port hport := by
    rw [h'.endpoint_touched port ((hsame port).2 hport), h.endpoint_touched port hport]
  endpoint_kept other spot hapart := by
    rw [h'.endpoint_kept, h.endpoint_kept other spot hapart]
    rwa [hsame]
  row_iff := h'.row_iff
  row_id := h.row_id.trans hrows h'.row_id
  group_kept key hkey := by
    rw [not_or] at hkey
    rw [h'.group_kept key hkey.2, h.group_kept key hkey.1]

/-- A write restores the rows exactly where it leaves every endpoint as it is. -/
theorem rows_eq_iff {limits' : Limits} (h : r.Rewrites r' id side touched change recorded)
    (hr : r.WellFormed limits) (hr' : r'.WellFormed limits') :
    (∀ place, r'.rows.find? place = r.rows.find? place) ↔
      ∀ port, touched port →
        change port (r.endpoint id ⟨port, side⟩) = r.endpoint id ⟨port, side⟩ := by
  constructor
  · intro hrows port hport
    rw [← h.endpoint_touched port hport, endpoint, hrows]
    rfl
  · rintro hsame ⟨other, port⟩
    refine hr.find?_congr hr' h.row_id fun side' => ?_
    by_cases htouched : other = id ∧ side' = side ∧ touched port
    · obtain ⟨rfl, rfl, htouched⟩ := htouched
      rw [h.endpoint_touched port htouched, hsame port htouched]
    · exact h.endpoint_kept _ _ htouched

end Rewrites

end Registry

/-! ### Runs -/

namespace Server

theorem Reachable.rowsDrawn {s : Server} (h : s.Reachable) (hids : s.registry.ids.Distinct) :
    s.registry.RowsDrawn := by
  obtain ⟨settings, plan, ids, requests, rfl⟩ := h
  exact serveAll_keeps_distinct (.of_empty (rows_ofPlan settings plan ids))
    (fun hperform hdistinct hr => hr.perform hperform hdistinct) requests hids

end Server
end CrossConnect
