import CrossConnect.Proofs.Registry.Identities
import CrossConnect.Proofs.Registry.Uploads

/-!
A placement taken back. Where no fiber was shown, clearing the port, or any port merged with it,
undoes a placement: the rows come back with their identities, and the merge group had no upload that
clearing could forget, because ports that show nothing have none.
-/
namespace CrossConnect

namespace Registry

variable {r r₁ r' : Registry} {id : StructureId} {spot : PortSide} {port other : PortNumber}
  {group : MergeGroup} {key : MergeGroupId} {limits limits' : Limits} {row : Splice}

/-! ### Uploads that show -/

def UploadsShown (r : Registry) : Prop :=
  ∀ ⦃key group⦄, r.groups.find? key = some group → r.ShowsOn group none → group.fibers = []

theorem WellFormed.exists_showsOn (h : r.WellFormed limits)
    (hkey : r.groups.find? key = some group) : ∃ fiber, r.ShowsOn group fiber := by
  obtain ⟨spot, hcovers⟩ := h.exists_covers hkey
  exact ⟨_, fun port hport => h.group_fiber hkey ⟨rfl, rfl, hport⟩ hcovers⟩

theorem UploadsShown.step (h : r.UploadsShown) (hr : r.WellFormed limits)
    (hr' : r'.WellFormed limits') {call : Call} (hlaw : call.Law r r') : r'.UploadsShown := by
  intro key group hkey hnone
  cases hr.groupChange hr' hlaw hkey with
  | kept recorded shows =>
    obtain ⟨fiber, hfiber⟩ := hr.exists_showsOn recorded
    obtain rfl := hr'.showsOn_unique hkey hnone (shows fiber hfiber)
    exact h recorded hfiber
  | emptied empty => exact empty
  | uploaded fibers shows => exact nomatch hr'.showsOn_unique hkey hnone shows
  | placed recorded covers fiber shows => exact nomatch hr'.showsOn_unique hkey hnone shows

/-! ### Ports that are written together -/

namespace WellFormed

variable (h : r.WellFormed limits)

include h

theorem shares_congr (hshares : r.Shares id spot port) :
    r.Shares id ⟨port, spot.side⟩ other ↔ r.Shares id spot other := by
  rcases hshares with rfl | ⟨key, group, hkey, hcovers, hport⟩
  · exact Iff.rfl
  · have hcovers' : group.Covers id ⟨port, spot.side⟩ := ⟨hcovers.1, hcovers.2.1, hport⟩
    rw [h.shares_of_covers hkey hcovers, h.shares_of_covers hkey hcovers']

theorem fiber_of_shares (hshares : r.Shares id spot port) :
    (r.endpoint id ⟨port, spot.side⟩).fiber = (r.endpoint id spot).fiber := by
  rcases hshares with rfl | ⟨key, group, hkey, hcovers, hport⟩
  · rfl
  · exact h.group_fiber hkey ⟨hcovers.1, hcovers.2.1, hport⟩ hcovers

theorem hasPort_of_shares (hport : r.HasPort id spot) (hshares : r.Shares id spot port) :
    r.HasPort id ⟨port, spot.side⟩ :=
  h.hasPort_fanOut hport port (h.mem_fanOut_iff.2 hshares)

theorem clear_place (huploads : r.UploadsShown) {p : Placement} {outcome : ClearOutcome}
    (hplace : r.place p = .ok (row, r₁)) (hnone : (r.endpoint p.structureId p.spot).fiber = none)
    (hshares : r.Shares p.structureId p.spot port)
    (hclear : r₁.clear p.structureId ⟨port, p.spot.side⟩ = .ok (outcome, r')) :
    (∀ place, r'.rows.find? place = r.rows.find? place) ∧
      ∀ key, r'.groups.find? key = r.groups.find? key := by
  have h₁ := h.place hplace
  obtain ⟨fiber, -, hplaced⟩ := h.law_place hplace
  obtain ⟨hcleared, hforgotten⟩ := h₁.law_clear hclear
  have hgroups : ∀ key, r₁.groups.find? key = r.groups.find? key :=
    fun key => hplaced.group_kept key not_false
  have hsame : ∀ other, r₁.Shares p.structureId ⟨port, p.spot.side⟩ other ↔
      r.Shares p.structureId p.spot other := fun other => by
    rw [← h.shares_congr hshares]
    simp only [Shares, hgroups]
  have hrows := hplaced.keepsRows h fun port e _ => by simp [Endpoint.isVacant]
  have hboth := hplaced.trans hrows hcleared hsame
  refine ⟨(hboth.rows_eq_iff h (h₁.clear hclear)).2 fun other hother => ?_, fun key => ?_⟩
  · have hbare := (h.fiber_of_shares hother).trans hnone
    generalize r.endpoint p.structureId ⟨other, p.spot.side⟩ = e at hbare
    obtain ⟨fiber, group, span⟩ := e
    obtain rfl : fiber = none := hbare
    rfl
  · by_cases hcovered : ∃ group, r₁.groups.find? key = some group ∧
        group.Covers p.structureId ⟨port, p.spot.side⟩
    · obtain ⟨group, hkey, hcovers⟩ := hcovered
      have hold : r.groups.find? key = some group := (hgroups key).symm.trans hkey
      have hempty : group.fibers = [] := by
        refine huploads hold fun other hother => ?_
        rw [hcovers.1, hcovers.2.1]
        have hwritten := (h.shares_of_covers hold hcovers).2 hother
        exact (h.fiber_of_shares ((h.shares_congr hshares).1 hwritten)).trans hnone
      rw [hforgotten key group hkey hcovers, hold, ← hempty]
    · exact (hcleared.group_kept key hcovered).trans (hgroups key)

end WellFormed
end Registry

/-! ### Runs -/

namespace Server

theorem Reachable.uploadsShown {s : Server} (h : s.Reachable) (hids : s.registry.ids.Distinct) :
    s.registry.UploadsShown := by
  obtain ⟨settings, plan, ids, requests, rfl⟩ := h
  have hstart : (ofPlan settings plan ids).registry.UploadsShown := fun key group hkey => by
    rw [groups_ofPlan] at hkey
    cases hkey
  refine (serveAll_keeps_distinct (P := fun r => r.Sound _ ∧ r.UploadsShown)
    ⟨sound_ofPlan settings plan ids, hstart⟩ ?_ requests hids).2
  rintro r r' call a hperform hdistinct ⟨hr, hshown⟩
  have hr' := hr.perform hperform hdistinct
  exact ⟨hr', hshown.step hr.wellFormed hr'.wellFormed (hr.law hperform hdistinct)⟩

end Server
end CrossConnect
