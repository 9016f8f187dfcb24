import CrossConnect.Proofs.Server

/-!
Which fiber a port side carries, and what accepted placements and clearings make of that.
-/
namespace CrossConnect

abbrev FiberSlot : Type :=
  StructureId × PortSide

def Placement.slot (p : Placement) : FiberSlot :=
  (p.structureId, p.spot)

/-- Two slots that are not the same and not in one merge group. -/
def Apart (group : FiberSlot → Option MergeGroupId) (slot other : FiberSlot) : Prop :=
  slot.1 = other.1 → slot.2 ≠ other.2 ∧ ∀ key, group slot = some key → group other ≠ some key

namespace Registry

variable {r r' : Registry} {id other : StructureId} {spot spot' : PortSide} {side : Side}
  {port : PortNumber} {row : Splice} {limits : Limits} {p : Placement}

def Carries (r : Registry) (id : StructureId) (spot : PortSide) (fiber : FiberId) : Prop :=
  (r.endpoint id spot).fiber.map (·.fiberId) = some fiber

instance (r : Registry) (id : StructureId) (spot : PortSide) (fiber : FiberId) :
    Decidable (r.Carries id spot fiber) :=
  inferInstanceAs (Decidable (_ = _))

theorem fiberId_of_terminate {fiber : FiberRef} {shown : Termination}
    (h : r.terminate fiber = .ok shown) : shown.fiberId = fiber.fiberId := by
  simp only [terminate, bind_eq_ok] at h
  obtain ⟨cable, -, h⟩ := h
  split at h
  next found hfound =>
    obtain rfl := Except.ok.inj h
    have hid := List.find?_some hfound
    exact of_decide_eq_true hid
  next => cases h

/-! ### Groups that stay as they are -/

namespace WellFormed

theorem fanOut_of_sameGroups (h : r'.WellFormed limits) (hgroups : SameGroups r r')
    (id : StructureId) (spot : PortSide) :
    r'.fanOut id spot = r.fanOut id spot := by
  simp only [fanOut]
  cases hat : r.groupAt id spot with
  | none =>
    cases hat' : r'.groupAt id spot with
    | none => rfl
    | some group' =>
      obtain ⟨key, hkey', hcovers⟩ := groupAt_eq_some hat'
      obtain ⟨group, hkey, hshape⟩ := hgroups.back hkey'
      exact absurd (hshape.covers_iff.1 hcovers) (groupAt_eq_none hat hkey)
  | some group =>
    obtain ⟨key, hkey, hcovers⟩ := groupAt_eq_some hat
    obtain ⟨group', hkey', hshape⟩ := hgroups.forth hkey
    cases hat' : r'.groupAt id spot with
    | none => exact absurd (hshape.covers_iff.2 hcovers) (groupAt_eq_none hat' hkey')
    | some found =>
      obtain ⟨key₂, hkey₂, hcovers₂⟩ := groupAt_eq_some hat'
      have heq := (h.key_unique hkey' hkey₂ (hshape.covers_iff.2 hcovers) hcovers₂).2
      rw [heq]
      exact hshape.ports

/-! ### Placing and clearing -/

theorem place_fiberChange (h : r.WellFormed limits) (hplace : r.place p = .ok (row, r')) :
    ∃ shown : Termination, shown.fiberId = p.fiber.fiberId ∧
      FiberChange r r' p.structureId p.spot.side (r.fanOut p.structureId p.spot) (some shown) := by
  obtain ⟨-, -, shown, hshown, rfl⟩ := h.place_eq_ok hplace
  exact ⟨shown, fiberId_of_terminate hshown, fiberChange_writeEndpoints r _ _ _ h.nodup_fanOut⟩

theorem carries_place (h : r.WellFormed limits) (hplace : r.place p = .ok (row, r'))
    (hside : spot.side = p.spot.side) (hport : spot.port ∈ r.fanOut p.structureId p.spot) :
    r'.Carries p.structureId spot p.fiber.fiberId := by
  obtain ⟨shown, hfiber, hchange⟩ := h.place_fiberChange hplace
  rw [Carries, hchange.endpoint, if_pos ⟨rfl, hside, hport⟩]
  exact congrArg some hfiber

theorem endpoint_place_of_not (h : r.WellFormed limits) (hplace : r.place p = .ok (row, r'))
    (hapart : ¬(other = p.structureId ∧ spot.side = p.spot.side ∧
      spot.port ∈ r.fanOut p.structureId p.spot)) :
    r'.endpoint other spot = r.endpoint other spot := by
  obtain ⟨shown, -, hchange⟩ := h.place_fiberChange hplace
  rw [hchange.endpoint, if_neg hapart]

theorem endpoint_clear_of_not (h : r.WellFormed limits) {outcome : ClearOutcome}
    (hclear : r.clear id spot = .ok (outcome, r'))
    (hapart : ¬(other = id ∧ spot'.side = spot.side ∧ spot'.port ∈ r.fanOut id spot)) :
    r'.endpoint other spot' = r.endpoint other spot' := by
  rw [(h.clear_fiberChange hclear).endpoint, if_neg hapart]

theorem eq_or_group_of_mem_fanOut (h : r.WellFormed limits) (hside : spot'.side = spot.side)
    (hport : spot'.port ∈ r.fanOut id spot) :
    spot' = spot ∨ ∃ key, (r.endpoint id spot).group = some key ∧
      (r.endpoint id spot').group = some key := by
  simp only [fanOut] at hport
  split at hport
  next group hat =>
    obtain ⟨key, hkey, hcovers⟩ := groupAt_eq_some hat
    have hcovers' : group.Covers id spot' := ⟨hcovers.1, hcovers.2.1.trans hside.symm, hport⟩
    exact .inr ⟨key, h.group_iff.2 ⟨group, hkey, hcovers⟩, h.group_iff.2 ⟨group, hkey, hcovers'⟩⟩
  next =>
    obtain ⟨port, side⟩ := spot
    obtain ⟨port', side'⟩ := spot'
    obtain rfl : side' = side := hside
    obtain rfl := List.mem_singleton.1 hport
    exact .inl rfl

end WellFormed

/-! ### Several placements -/

def Reaches (r : Registry) (p : Placement) (id : StructureId) (spot : PortSide) : Prop :=
  id = p.structureId ∧ spot.side = p.spot.side ∧ spot.port ∈ r.fanOut p.structureId p.spot

instance (r : Registry) (p : Placement) (id : StructureId) (spot : PortSide) :
    Decidable (r.Reaches p id spot) :=
  inferInstanceAs (Decidable (_ ∧ _ ∧ _))

inductive Places (r : Registry) : List Placement → Registry → Prop
  | nil : Places r [] r
  | snoc {r₁ r' : Registry} {ps : List Placement} {p : Placement} {row : Splice}
      (before : Places r ps r₁) (placed : r₁.place p = .ok (row, r')) : Places r (ps ++ [p]) r'

namespace Places

variable {ps : List Placement}

theorem frame (h : r.Places ps r') : r.Frame r' := by
  induction h with
  | nil => exact .refl r
  | snoc before placed ih => exact ih.trans (frame_place placed)

theorem wellFormed (h : r.Places ps r') (hr : r.WellFormed limits) : r'.WellFormed limits := by
  induction h with
  | nil => exact hr
  | snoc before placed ih => exact ih.place placed

theorem fanOut (h : r.Places ps r') (hr : r.WellFormed limits) (id : StructureId)
    (spot : PortSide) : r'.fanOut id spot = r.fanOut id spot := by
  induction h with
  | nil => rfl
  | snoc before placed ih =>
    have hbefore := before.wellFormed hr
    obtain ⟨shown, -, hchange⟩ := hbefore.place_fiberChange placed
    rw [(hbefore.place placed).fanOut_of_sameGroups hchange.groups, ih]

theorem endpoint_of_unreached (h : r.Places ps r') (hr : r.WellFormed limits)
    (hapart : ∀ p ∈ ps, ¬r.Reaches p id spot) : r'.endpoint id spot = r.endpoint id spot := by
  induction h with
  | nil => rfl
  | @snoc r₁ r' ps p row before placed ih =>
    have hlast := hapart p (List.mem_append_right _ (List.mem_singleton_self p))
    rw [(before.wellFormed hr).endpoint_place_of_not placed,
      ih fun q hq => hapart q (List.mem_append_left _ hq)]
    rw [before.fanOut hr]
    exact hlast

theorem endpoint_of_reached (h : r.Places ps r') (hr : r.WellFormed limits)
    (hapart : ps.Pairwise fun p q => ∀ id spot, r.Reaches p id spot → ¬r.Reaches q id spot)
    (hp : p ∈ ps) (hreach : r.Reaches p id spot) : ∃ shown : Termination,
      shown.fiberId = p.fiber.fiberId ∧
        r'.endpoint id spot = { r.endpoint id spot with fiber := some shown } := by
  induction h with
  | nil => cases hp
  | @snoc r₁ r' ps q row before placed ih =>
    obtain ⟨hbefore, -, hlast⟩ := List.pairwise_append.1 hapart
    have hwell := before.wellFormed hr
    rcases List.mem_append.1 hp with hp | hp
    · obtain ⟨shown, hfiber, hendpoint⟩ := ih hbefore hp
      refine ⟨shown, hfiber, ?_⟩
      have hno := hlast p hp q (List.mem_singleton_self q) id spot hreach
      rw [hwell.endpoint_place_of_not placed, hendpoint]
      rw [before.fanOut hr]
      exact hno
    · obtain rfl := List.mem_singleton.1 hp
      obtain ⟨shown, hfiber, hchange⟩ := hwell.place_fiberChange placed
      have hfirst : ∀ q ∈ ps, ¬r.Reaches q id spot := fun q hq hreach' =>
        hlast q hq p (List.mem_singleton_self p) id spot hreach' hreach
      have hwritten : id = p.structureId ∧ spot.side = p.spot.side ∧
          spot.port ∈ r.fanOut p.structureId p.spot := hreach
      refine ⟨shown, hfiber, ?_⟩
      rw [hchange.endpoint, before.fanOut hr, if_pos hwritten,
        before.endpoint_of_unreached hr hfirst]

end Places

def groupOn (r : Registry) (slot : FiberSlot) : Option MergeGroupId :=
  (r.endpoint slot.1 slot.2).group

theorem WellFormed.not_reaches (h : r.WellFormed limits) {q : Placement}
    (hapart : Apart r.groupOn p.slot q.slot) (hreach : r.Reaches p id spot) :
    ¬r.Reaches q id spot := by
  rintro ⟨rfl, hqside, hqport⟩
  obtain ⟨hid, hpside, hpport⟩ := hreach
  obtain ⟨hne, hgroups⟩ := hapart hid.symm
  simp only [groupOn, Placement.slot] at hne hgroups
  rw [hid] at hqport hgroups
  rcases h.eq_or_group_of_mem_fanOut hpside hpport with hsame | ⟨key, hkey, hkey'⟩
  · rcases h.eq_or_group_of_mem_fanOut hqside hqport with hsame' | ⟨key', hkey', hkey''⟩
    · exact hne (hsame.symm.trans hsame')
    · exact hgroups key' (hsame ▸ hkey'') hkey'
  · rcases h.eq_or_group_of_mem_fanOut hqside hqport with hsame' | ⟨key', hqkey, hspot⟩
    · exact hgroups key hkey (hsame' ▸ hkey')
    · obtain rfl : key = key' := Option.some.inj (hkey'.symm.trans hspot)
      exact hgroups key hkey hqkey

end Registry
end CrossConnect
