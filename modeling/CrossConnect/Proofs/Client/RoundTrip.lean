import CrossConnect.Proofs.Client.Unhindered
import CrossConnect.Proofs.Registry.Undoing

/-!
A fiber dropped on a bare port and taken off again. On a port outside merge groups the editor is
settled by the authority's row and then by dropping empty rows, on a merged port by two listings;
either way everything is as it was, with the identities of rows.
-/
namespace CrossConnect.Server

/-- A fiber that the authority knows, dropped on a port side without one and cleared from it, or
from any port merged with it, leaves the rows of the authority with their identities, its merge
groups with their uploads, and the rows of the editor as they were. The editor mirrors the
authority, no failpoint is in the way, and no identifier is drawn twice. -/
theorem cleared_after_drop {s : Server} (h : s.Reachable) (hids : s.registry.ids.Distinct)
    {c : Client} {id : StructureId} (hmirrors : c.editor.Mirrors s.registry id) {spot : PortSide}
    {port : PortNumber} {fiber : LabelledFiber} {shown : Termination}
    (hport : s.registry.HasPort id spot) (hnone : (s.registry.endpoint id spot).fiber = none)
    (hfiber : s.registry.terminate fiber.fiber.ref = .ok shown)
    (hshares : s.registry.Shares id spot port)
    (hplace : s.failpointFor (.place ⟨id, spot, fiber.fiber.ref⟩) = none)
    (hclear : s.failpointFor (.clear id ⟨port, spot.side⟩) = none)
    (hlist : s.failpointFor (.rowsOf id) = none) :
    let (dropped, edited, line) :=
      (Client.dropFiber spot fiber).run (Authority.recorded answer) c (s, [])
    let (cleared, left, last, _) :=
      (Client.clearPort ⟨port, spot.side⟩).run (Authority.recorded answer) edited line
    dropped = true ∧ cleared = true ∧
      (∀ place, last.registry.rows.find? place = s.registry.rows.find? place) ∧
      (∀ key, last.registry.groups.find? key = s.registry.groups.find? key) ∧
      left.editor.rows = c.editor.rows := by
  have hs := h.sound hids
  obtain ⟨⟨row, r₁⟩, hplaced⟩ :=
    Registry.exists_place (p := ⟨id, spot, fiber.fiber.ref⟩) hport hfiber
  obtain ⟨edited, ⟨s₁, exchanges⟩, hdropped, hwrote⟩ := (SingleStep.drop spot fiber).run_unhindered
    [] hs hplaced hmirrors hport hplace hlist
  obtain rfl := hwrote.registry
  have hs₁ : s₁.Sound := by
    rw [Sound, hwrote.terms.limits]
    exact Registry.Sound.place hs hplaced
  obtain ⟨record, hrecord⟩ := hwrote.mirrors.known
  obtain ⟨⟨outcome, r₂⟩, hremoved⟩ := Registry.exists_clear ⟨port, spot.side⟩ hrecord
  have hport₁ : s₁.registry.HasPort id ⟨port, spot.side⟩ :=
    (Registry.frame_place hplaced).hasPort_iff.2 (hs.wellFormed.hasPort_of_shares hport hshares)
  obtain ⟨left, ⟨last, exchanges'⟩, hcleared, hwrote'⟩ :=
    (SingleStep.clear ⟨port, spot.side⟩).run_unhindered exchanges hs₁ hremoved
      hwrote.mirrors hport₁ ((hwrote.terms.failpointFor _).trans hclear)
      ((hwrote.terms.failpointFor _).trans hlist)
  obtain rfl := hwrote'.registry
  obtain ⟨hrows, hgroups⟩ :=
    hs.wellFormed.clear_place (h.uploadsShown hids) hplaced hnone hshares hremoved
  have hs₂ := hs₁.wellFormed.clear hremoved
  simp only [SingleStep.job] at hdropped hcleared
  rw [hdropped]
  dsimp only
  rw [hcleared]
  refine ⟨rfl, rfl, hrows, hgroups, ?_⟩
  rw [hwrote'.mirrors.rows, hmirrors.rows]
  exact Registry.listing_congr hs.wellFormed.rowsAt hs₂.rowsAt fun port => hrows (id, port)

theorem cleared_after_drop_on_group :
    let s := (ofPlan {} smallPlan (.numbered 0 0)).serveAll
      [.call (.merge smallTray.id [2, 1] .a),
        .call (.place ⟨smallTray.id, ⟨1, .b⟩, (smallFiber 2).ref⟩)]
    let (dropped, edited, line) :=
      (Client.dropFiber ⟨1, .a⟩ ⟨smallFiber 1, "cable"⟩).run (Authority.recorded answer)
        s.smallClient (s, [])
    let (cleared, left, last, _) :=
      (Client.clearPort ⟨2, .a⟩).run (Authority.recorded answer) edited line
    dropped = true ∧ cleared = true ∧
      (∀ place, last.registry.rows.find? place = s.registry.rows.find? place) ∧
      (∀ key, last.registry.groups.find? key = s.registry.groups.find? key) ∧
      left.editor.rows = s.smallClient.editor.rows := by
  intro s
  have hids : s.registry.ids.Distinct := by decide +kernel
  have hknown : s.registry.structures.find? smallTray.id = some smallTray := by decide +kernel
  have hreachable : s.Reachable := ⟨_, _, _, _, rfl⟩
  have hmerged : 2 ∈ s.registry.fanOut smallTray.id ⟨1, .a⟩ := by decide +kernel
  have hshares := (hreachable.sound hids).wellFormed.mem_fanOut_iff.1 hmerged
  have hport : s.registry.requirePort smallTray.id ⟨1, .a⟩ = .ok () := by decide +kernel
  have hnone : (s.registry.endpoint smallTray.id ⟨1, .a⟩).fiber = none := by decide +kernel
  have hfiber : s.registry.terminate (smallFiber 1).ref =
      .ok (.ofFiber (smallFiber 1) "cable") := by
    decide +kernel
  have hfree : s.failpoints = [] := by decide +kernel
  clear_value s
  exact cleared_after_drop hreachable hids (mirrors_smallClient hknown)
    (Registry.requirePort_eq_ok.1 hport) hnone hfiber hshares (failpointFor_eq_none hfree _)
    (failpointFor_eq_none hfree _) (failpointFor_eq_none hfree _)

end CrossConnect.Server
