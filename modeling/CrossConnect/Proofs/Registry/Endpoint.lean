import CrossConnect.Registry
import Mathlib

/-!
The registry seen as a map from port sides to what is recorded there, and what writing endpoints and
dropping empty rows do to that map.
-/
namespace CrossConnect

theorem bind_eq_ok {α β : Type} {x : Except Failure α} {f : α → Except Failure β} {b : β} :
    x >>= f = .ok b ↔ ∃ a, x = .ok a ∧ f a = .ok b := by
  cases x with
  | error e => simp [bind, Except.bind]
  | ok a => simp [bind, Except.bind]

def Splice.blank (uuid : Uuid) (id : StructureId) (port : PortNumber) : Splice :=
  { id := .persisted uuid, structureId := id, port }

@[simp] theorem Splice.endpoint_blank (uuid : Uuid) (id : StructureId) (port : PortNumber)
    (side : Side) : (Splice.blank uuid id port).endpoint side = {} := by
  cases side <;> rfl

theorem Splice.setFiber_setFiber (row : Splice) (side : Side) (fiber fiber' : Option Termination) :
    (row.setFiber side fiber).setFiber side fiber' = row.setFiber side fiber' := by
  cases side <;> rfl

theorem Endpoint.eq_empty {e : Endpoint} (hvacant : e.isVacant = true)
    (htidy : e.group = none → e.span = none) : e = {} := by
  obtain ⟨fiber, group, span⟩ := e
  simp_all [Endpoint.isVacant]

theorem Splice.isEmpty_iff {row : Splice} :
    row.isEmpty = true ↔ ∀ side, (row.endpoint side).isVacant = true := by
  simp only [Splice.isEmpty, Bool.and_eq_true]
  exact ⟨fun h side => by cases side <;> simp [Splice.endpoint, h], fun h => ⟨h .a, h .b⟩⟩

namespace Registry

variable {r r' : Registry} {id other : StructureId} {side : Side} {spot : PortSide}
  {port : PortNumber} {ports : List PortNumber} {row : Splice}

def endpoint (r : Registry) (id : StructureId) (spot : PortSide) : Endpoint :=
  ((r.rows.find? (id, spot.port)).map (·.endpoint spot.side)).getD {}

theorem endpoint_of_row (h : r.rows.find? (id, spot.port) = some row) :
    r.endpoint id spot = row.endpoint spot.side := by
  simp [endpoint, h]

theorem endpoint_of_no_row (h : r.rows.find? (id, spot.port) = none) : r.endpoint id spot = {} := by
  simp [endpoint, h]

/-! ### What no operation changes -/

/-- The second registry differs at most in its rows and groups and in having drawn more
identifiers. -/
structure Frame (r r' : Registry) : Prop where
  componentTypes : r'.componentTypes = r.componentTypes
  structures : r'.structures = r.structures
  cables : r'.cables = r.cables
  draw : r'.ids.draw = r.ids.draw
  drawn : r.ids.drawn ≤ r'.ids.drawn

theorem Frame.refl (r : Registry) : Frame r r :=
  ⟨rfl, rfl, rfl, rfl, le_rfl⟩

theorem Frame.trans {r₁ r₂ r₃ : Registry} (h : Frame r₁ r₂) (h' : Frame r₂ r₃) : Frame r₁ r₃ :=
  ⟨h'.componentTypes.trans h.componentTypes, h'.structures.trans h.structures,
    h'.cables.trans h.cables, h'.draw.trans h.draw, h.drawn.trans h'.drawn⟩

/-! ### Opening a row -/

theorem openRow_of_row (h : r.rows.find? (id, port) = some row) : r.openRow id port = (row, r) := by
  simp only [openRow, h]

theorem openRow_of_no_row (h : r.rows.find? (id, port) = none) :
    r.openRow id port = (.blank r.ids.next.1 id port,
      { r with
        rows := r.rows.insert (id, port) (.blank r.ids.next.1 id port)
        ids := r.ids.next.2 }) := by
  simp only [openRow, h]
  rfl

theorem frame_openRow (r : Registry) (id : StructureId) (port : PortNumber) :
    Frame r (r.openRow id port).2 := by
  cases h : r.rows.find? (id, port) with
  | some row => rw [openRow_of_row h]; exact .refl r
  | none =>
    rw [openRow_of_no_row h]
    exact ⟨rfl, rfl, rfl, rfl, Nat.le_succ _⟩

theorem groups_openRow (r : Registry) (id : StructureId) (port : PortNumber) :
    (r.openRow id port).2.groups = r.groups := by
  cases h : r.rows.find? (id, port) with
  | some row => rw [openRow_of_row h]
  | none => rw [openRow_of_no_row h]

/-! ### Writing endpoints -/

theorem find?_writeEndpoint (r : Registry) (id : StructureId) (side : Side)
    (f : Endpoint → Endpoint) (port : PortNumber) (key : StructureId × PortNumber) :
    (r.writeEndpoint id side f port).rows.find? key =
      if key = (id, port) then some ((r.openRow id port).1.mapEndpoint side f)
      else r.rows.find? key := by
  simp only [writeEndpoint]
  cases h : r.rows.find? (id, port) with
  | some row =>
    rw [openRow_of_row h]
    exact Table.find?_insert ..
  | none =>
    rw [openRow_of_no_row h]
    by_cases hkey : key = (id, port) <;> simp [Table.find?_insert, hkey]

theorem frame_writeEndpoint (r : Registry) (id : StructureId) (side : Side)
    (f : Endpoint → Endpoint) (port : PortNumber) : Frame r (r.writeEndpoint id side f port) :=
  let h := frame_openRow r id port
  ⟨h.componentTypes, h.structures, h.cables, h.draw, h.drawn⟩

theorem groups_writeEndpoint (r : Registry) (id : StructureId) (side : Side)
    (f : Endpoint → Endpoint) (port : PortNumber) :
    (r.writeEndpoint id side f port).groups = r.groups :=
  groups_openRow r id port

theorem writeEndpoints_cons (r : Registry) (id : StructureId) (side : Side)
    (f : PortNumber → Endpoint → Endpoint) (port : PortNumber) (ports : List PortNumber) :
    r.writeEndpoints id side f (port :: ports) =
      (r.writeEndpoint id side (f port) port).writeEndpoints id side f ports :=
  rfl

theorem frame_writeEndpoints (r : Registry) (id : StructureId) (side : Side)
    (f : PortNumber → Endpoint → Endpoint) (ports : List PortNumber) :
    Frame r (r.writeEndpoints id side f ports) := by
  induction ports generalizing r with
  | nil => exact .refl r
  | cons port ports ih => exact (frame_writeEndpoint r id side (f port) port).trans (ih _)

@[simp] theorem groups_writeEndpoints (r : Registry) (id : StructureId) (side : Side)
    (f : PortNumber → Endpoint → Endpoint) (ports : List PortNumber) :
    (r.writeEndpoints id side f ports).groups = r.groups := by
  induction ports generalizing r with
  | nil => rfl
  | cons port ports ih =>
    rw [writeEndpoints_cons, ih, groups_writeEndpoint]

theorem find?_writeEndpoints_of_ne (r : Registry) (side : Side)
    (f : PortNumber → Endpoint → Endpoint) (h : ¬(other = id ∧ port ∈ ports)) :
    (r.writeEndpoints id side f ports).rows.find? (other, port) = r.rows.find? (other, port) := by
  induction ports generalizing r with
  | nil => rfl
  | cons first ports ih =>
    have hne : (other, port) ≠ (id, first) := by
      rintro ⟨rfl, rfl⟩
      exact h ⟨rfl, List.mem_cons_self⟩
    rw [writeEndpoints_cons, ih _ fun hmem => h ⟨hmem.1, List.mem_cons_of_mem _ hmem.2⟩,
      find?_writeEndpoint, if_neg hne]

theorem find?_writeEndpoints_of_mem (r : Registry) (id : StructureId) (side : Side)
    (f : PortNumber → Endpoint → Endpoint) (hnodup : ports.Nodup) (hport : port ∈ ports) :
    ∃ uuid, (r.writeEndpoints id side f ports).rows.find? (id, port) =
      some (((r.rows.find? (id, port)).getD (.blank uuid id port)).mapEndpoint side (f port)) := by
  induction ports generalizing r with
  | nil => cases hport
  | cons first ports ih =>
    obtain ⟨hfirst, hnodup⟩ := List.nodup_cons.1 hnodup
    rw [writeEndpoints_cons]
    by_cases hne : port = first
    · subst hne
      refine ⟨r.ids.next.1, ?_⟩
      rw [find?_writeEndpoints_of_ne _ side f fun hmem => hfirst hmem.2, find?_writeEndpoint,
        if_pos rfl]
      cases h : r.rows.find? (id, port) with
      | some row => rw [openRow_of_row h]; rfl
      | none => rw [openRow_of_no_row h]; rfl
    · obtain ⟨uuid, huuid⟩ := ih (r.writeEndpoint id side (f first) first) hnodup
        ((List.mem_cons.1 hport).resolve_left hne)
      refine ⟨uuid, ?_⟩
      rw [huuid, find?_writeEndpoint, if_neg]
      exact fun hkey => hne (congrArg Prod.snd hkey)

theorem endpoint_writeEndpoints (r : Registry) (id : StructureId) (side : Side)
    (f : PortNumber → Endpoint → Endpoint) (hnodup : ports.Nodup) (other : StructureId)
    (spot : PortSide) :
    (r.writeEndpoints id side f ports).endpoint other spot =
      if other = id ∧ spot.side = side ∧ spot.port ∈ ports then f spot.port (r.endpoint other spot)
      else r.endpoint other spot := by
  by_cases hmem : other = id ∧ spot.port ∈ ports
  · obtain ⟨rfl, hport⟩ := hmem
    obtain ⟨uuid, huuid⟩ := find?_writeEndpoints_of_mem r other side f hnodup hport
    rw [endpoint_of_row huuid]
    cases h : r.rows.find? (other, spot.port) with
    | some row => simp [endpoint_of_row h, hport]
    | none => simp [endpoint_of_no_row h, hport]
  · rw [if_neg fun h => hmem ⟨h.1, h.2.2⟩]
    simp only [endpoint]
    rw [find?_writeEndpoints_of_ne r side f hmem]

/-! ### Dropping empty rows -/

theorem find?_prune (r : Registry) (id : StructureId) (key : StructureId × PortNumber) :
    (r.prune id).rows.find? key =
      (r.rows.find? key).filter fun row => decide (key.1 ≠ id) || !row.isEmpty :=
  Table.find?_filter ..

theorem endpoint_prune
    (hspan : (r.endpoint other spot).isVacant = true → (r.endpoint other spot).span = none) :
    (r.prune id).endpoint other spot = r.endpoint other spot := by
  cases hrow : r.rows.find? (other, spot.port) with
  | none =>
    rw [endpoint_of_no_row hrow, endpoint_of_no_row]
    rw [find?_prune, hrow, Option.filter_none]
  | some row =>
    by_cases hkeep : (decide (other ≠ id) || !row.isEmpty) = true
    · rw [endpoint_of_row hrow, endpoint_of_row]
      rw [find?_prune, hrow, Option.filter_some, if_pos hkeep]
    · rw [endpoint_of_no_row (by rw [find?_prune, hrow, Option.filter_some, if_neg hkeep])]
      rw [endpoint_of_row hrow] at hspan ⊢
      have hempty : row.isEmpty = true := by simp_all
      have hvacant := Splice.isEmpty_iff.1 hempty spot.side
      exact (Endpoint.eq_empty hvacant fun _ => hspan hvacant).symm

end Registry
end CrossConnect
