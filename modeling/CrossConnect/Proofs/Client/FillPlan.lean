import CrossConnect.Client.Operation
import CrossConnect.Proofs.Registry.Listing
import CrossConnect.Proofs.Registry.Placing

/-!
Where the fibers of a fill go: the slots of the selected structure and, for a cable, of the
structures behind it, one fiber for each. The plan is read off the authority at the start; slots are
never written together, so that each of them keeps the fiber it gets.
-/
namespace CrossConnect

/-! ### Stable sorting -/

theorem sortBy_eq_mergeSort {α : Type} {le : α → α → Bool} (total : ∀ a b, le a b || le b a)
    (trans : ∀ a b c, le a b → le b c → le a c) (as : List α) : sortBy le as = as.mergeSort le := by
  induction as with
  | nil => rw [List.mergeSort_nil]; rfl
  | cons a as ih =>
    obtain ⟨smaller, rest, hsorted, hsplit, hsmaller⟩ := List.mergeSort_cons trans total a as
    have hpairwise := List.pairwise_mergeSort trans total (a :: as)
    rw [hsorted] at hpairwise ⊢
    have hrest : ∀ b ∈ rest, le a b = true :=
      (List.pairwise_cons.1 (List.pairwise_append.1 hpairwise).2.1).1
    change insertBy le a (sortBy le as) = _
    rw [ih, hsplit]
    clear hsorted hsplit hpairwise
    induction smaller with
    | nil => exact insertBy_eq_cons hrest
    | cons b smaller ihs =>
      have hb : le a b = false := by simpa using hsmaller b List.mem_cons_self
      simp only [List.cons_append, insertBy, hb, Bool.false_eq_true, if_false]
      rw [ihs fun c hc => hsmaller c (List.mem_cons_of_mem b hc)]

/-! ### Slots -/

/-- The ports without those that share a merge group with an earlier one. -/
def Occupancy.leaders (rows : List Splice) (side : Side) : List PortNumber → List PortNumber
  | [] => []
  | port :: ports => port :: (leaders rows side ports).filter fun other =>
      (groupOf rows ⟨port, side⟩).isNone ||
        decide (groupOf rows ⟨other, side⟩ ≠ groupOf rows ⟨port, side⟩)

structure Leg where
  structureId : StructureId
  free : List PortNumber

namespace Registry

def portsAt (r : Registry) (record : Structure) : List Port :=
  ((record.componentType.bind r.componentTypes.find?).map (·.ports)).getD []

def selectedLeg (r : Registry) (selected : SelectedStructure) (start : PortSide) : Leg where
  structureId := selected.record.id
  free := Occupancy.available selected.ports (r.listing selected.record.id) start.side start.port

def leg (r : Registry) (side : Side) (record : Structure) : Leg where
  structureId := record.id
  free := match (Occupancy.sidePorts (r.portsAt record) side).head? with
    | some lowest => Occupancy.available (r.portsAt record) (r.listing record.id) side lowest
    | none => []

def slots (r : Registry) (side : Side) (leg : Leg) : List FiberSlot :=
  (Occupancy.leaders (r.listing leg.structureId) side leg.free).map fun port =>
    (leg.structureId, ⟨port, side⟩)

/-- The slots of all structures before the first one that has no free port. -/
def route (r : Registry) (side : Side) (legs : List Leg) : List FiberSlot :=
  (legs.takeWhile fun leg => !leg.free.isEmpty).flatMap (r.slots side)

theorem route_blocked (r : Registry) (side : Side) {leg : Leg} (legs : List Leg)
    (hfree : leg.free = []) : r.route side (leg :: legs) = [] := by
  rw [route, List.takeWhile_cons_of_neg (by simp [hfree])]
  rfl

theorem route_open (r : Registry) (side : Side) {leg : Leg} (legs : List Leg)
    (hfree : leg.free ≠ []) :
    r.route side (leg :: legs) = r.slots side leg ++ r.route side legs := by
  rw [route, List.takeWhile_cons_of_pos (by simpa using hfree), List.flatMap_cons]
  rfl

end Registry

def placing (slots : List FiberSlot) (fibers : List Fiber) : List Placement :=
  List.zipWith (fun slot fiber => ⟨slot.1, slot.2, fiber.ref⟩) slots fibers

theorem placing_nil (slots : List FiberSlot) : placing slots [] = [] :=
  List.zipWith_nil_right

theorem placing_append (slots more : List FiberSlot) (fibers : List Fiber) :
    placing (slots ++ more) fibers =
      placing slots fibers ++ placing more (fibers.drop (placing slots fibers).length) := by
  induction slots generalizing fibers with
  | nil => rfl
  | cons slot slots ih =>
    cases fibers with
    | nil => simp [placing]
    | cons fiber fibers => exact congrArg (_ :: ·) (ih fibers)

theorem slots_placing (slots : List FiberSlot) (fibers : List Fiber) :
    (placing slots fibers).map (·.slot) = slots.take fibers.length := by
  induction slots generalizing fibers with
  | nil => exact List.take_nil.symm
  | cons slot slots ih =>
    cases fibers with
    | nil => rfl
    | cons fiber fibers => exact congrArg (slot :: ·) (ih fibers)

theorem mem_of_mem_placing {slots : List FiberSlot} {fibers : List Fiber} {p : Placement}
    (h : p ∈ placing slots fibers) : p.slot ∈ slots := by
  refine List.mem_of_mem_take (i := fibers.length) ?_
  rw [← slots_placing]
  exact List.mem_map_of_mem h

/-- What is dropped on a port to be spread over many; a cable comes with the structures that it may
go on in. -/
inductive Freight
  | bundle (bundle : Bundle)
  | cable (cable : Cable) (structures : List Structure)

namespace Freight

def operation (start : PortSide) : Freight → Operation
  | bundle b => .dropBundle start b
  | cable k structures => .dropCable start k structures

def structures : Freight → List Structure
  | bundle _ => []
  | cable _ structures => structures

def fibers (r : Registry) : Freight → List Fiber
  | bundle b => b.fibers.mergeSort fun f g => decide (f.absolute ≤ g.absolute)
  | cable k _ =>
    (if k.fibers.isEmpty then (r.fibersOf k.id).toOption.getD [] else k.fibers).mergeSort fun f g =>
      decide (f.bundle < g.bundle ∨ f.bundle = g.bundle ∧ f.absolute ≤ g.absolute)

def beyond (settings : ClientSettings) (selected : Structure) : Freight → List Structure
  | bundle _ => []
  | cable _ structures =>
    if settings.spills then
      let later := (structures.filter fun t => t.exposesPorts && decide (t.id ≠ selected.id) &&
        decide (selected.slotStart < t.slotStart)).mergeSort fun t u =>
          decide (t.slotStart ≤ u.slotStart)
      match settings.maxStructures with
      | some count => later.take (count - 1)
      | none => later
    else []

def plan (freight : Freight) (r : Registry) (settings : ClientSettings)
    (selected : SelectedStructure) (start : PortSide) : List Placement :=
  let legs := r.selectedLeg selected start ::
    (freight.beyond settings selected.record).map (r.leg start.side)
  placing (r.route start.side legs) (freight.fibers r)

theorem mergeSort_absolute (fibers : List Fiber) :
    Fiber.sortByAbsolute fibers = fibers.mergeSort fun f g => decide (f.absolute ≤ g.absolute) :=
  sortBy_eq_mergeSort (le_number_total Fiber.absolute) (le_number_trans Fiber.absolute) fibers

theorem mergeSort_bundle (fibers : List Fiber) :
    Fiber.sortByBundle fibers = fibers.mergeSort fun f g =>
      decide (f.bundle < g.bundle ∨ f.bundle = g.bundle ∧ f.absolute ≤ g.absolute) := by
  have horder : Fiber.dropOrder = fun f g =>
      decide (f.bundle < g.bundle ∨ f.bundle = g.bundle ∧ f.absolute ≤ g.absolute) := by
    funext f g
    simp [Fiber.dropOrder]
  rw [Fiber.sortByBundle, horder]
  refine sortBy_eq_mergeSort (fun f g => ?_) (fun f g h => ?_) fibers
  · simp only [Bool.or_eq_true, decide_eq_true_eq, UInt32.lt_iff_toNat_lt, UInt32.le_iff_toNat_le,
      ← UInt32.toNat_inj]
    omega
  · simp only [decide_eq_true_eq, UInt32.lt_iff_toNat_lt, UInt32.le_iff_toNat_le,
      ← UInt32.toNat_inj]
    omega

theorem laterStructures_eq (settings : ClientSettings) (selected : Structure) (cable : Cable)
    (structures : List Structure) :
    Client.laterStructures settings selected structures =
      (Freight.cable cable structures).beyond settings selected := by
  have hsort (records : List Structure) :
      sortBy (fun t u => decide (t.slotStart ≤ u.slotStart)) records =
        records.mergeSort fun t u => decide (t.slotStart ≤ u.slotStart) :=
    sortBy_eq_mergeSort (le_number_total Structure.slotStart)
      (le_number_trans Structure.slotStart) records
  exact congrArg (fun later => if settings.spills then
    match settings.maxStructures with
    | some count => later.take (count - 1)
    | none => later
  else []) (hsort _)

theorem nodup_beyond (freight : Freight) (settings : ClientSettings) (selected : Structure)
    (hids : (freight.structures.map (·.id)).Nodup) :
    (selected.id :: (freight.beyond settings selected).map (·.id)).Nodup := by
  cases freight with
  | bundle => exact List.nodup_singleton _
  | cable cable structures =>
    have hall : ∀ later : List Structure, (selected.id :: later.map (·.id)).Nodup →
        ∀ count, (selected.id :: (later.take count).map (·.id)).Nodup := fun later hlater count =>
      hlater.sublist ((List.take_sublist count later).map (·.id) |>.cons_cons selected.id)
    simp only [beyond]
    split
    next =>
      have hlater : (selected.id :: ((structures.filter fun t => t.exposesPorts &&
          decide (t.id ≠ selected.id) && decide (selected.slotStart < t.slotStart)).mergeSort
            fun t u => decide (t.slotStart ≤ u.slotStart)).map (·.id)).Nodup := by
        refine List.nodup_cons.2 ⟨fun hmem => ?_, ?_⟩
        · obtain ⟨t, ht, hid⟩ := List.mem_map.1 hmem
          have hkept := (List.mem_filter.1 ((List.mergeSort_perm _ _).mem_iff.1 ht)).2
          simp [hid] at hkept
        · exact ((List.mergeSort_perm _ _).map _).nodup_iff.2
            (hids.sublist (List.filter_sublist.map _))
      split
      · exact hall _ hlater _
      · exact hlater
    next => exact List.nodup_singleton _

end Freight

/-! ### Slots of one structure -/

section leaders

open Occupancy

variable {rows : List Splice} {side : Side} {ports : List PortNumber} {port : PortNumber}

theorem leaders_sublist : (leaders rows side ports).Sublist ports := by
  induction ports with
  | nil => exact .slnil
  | cons port ports ih => exact ((List.filter_sublist ..).trans ih).cons_cons port

theorem pairwise_leaders (h : ports.Nodup) : (leaders rows side ports).Pairwise fun p q =>
    p ≠ q ∧ ∀ key, groupOf rows ⟨p, side⟩ = some key → groupOf rows ⟨q, side⟩ ≠ some key := by
  induction ports with
  | nil => exact .nil
  | cons port ports ih =>
    obtain ⟨hport, hnodup⟩ := List.nodup_cons.1 h
    refine List.pairwise_cons.2 ⟨fun other hother => ?_, (ih hnodup).filter _⟩
    obtain ⟨hmem, hgroup⟩ := List.mem_filter.1 hother
    refine ⟨?_, fun key hkey hkey' => ?_⟩
    · rintro rfl
      exact hport (leaders_sublist.subset hmem)
    · rw [hkey, hkey'] at hgroup
      simp at hgroup

/-- The slots that are left when some merge groups have had their fiber. -/
def openSlots (rows : List Splice) (side : Side) (filled : List MergeGroupId)
    (ports : List PortNumber) : List PortNumber :=
  (leaders rows side ports).filter fun port => !(groupOf rows ⟨port, side⟩).any (filled.contains ·)

theorem openSlots_nil : openSlots rows side [] ports = leaders rows side ports := by
  refine List.filter_eq_self.2 fun port _ => ?_
  cases groupOf rows ⟨port, side⟩ <;> simp

theorem openSlots_cons_filled {filled : List MergeGroupId}
    (hfilled : (groupOf rows ⟨port, side⟩).any (· ∈ filled) = true) :
    openSlots rows side filled (port :: ports) = openSlots rows side filled ports := by
  obtain ⟨key, hkey, hmem⟩ := (Option.any_eq_true _ _).1 hfilled
  simp only [openSlots, leaders]
  have hpassed : (groupOf rows ⟨port, side⟩).any (filled.contains ·) = true := by
    simpa using hfilled
  rw [List.filter_cons, hpassed, List.filter_filter]
  refine List.filter_congr fun other _ => ?_
  cases hother : groupOf rows ⟨other, side⟩ with
  | none => simp [hkey]
  | some key' =>
    by_cases heq : key' = key
    · subst heq
      simpa [hkey] using hmem
    · simp [hkey, heq]

theorem openSlots_cons_open {filled : List MergeGroupId}
    (hopen : (groupOf rows ⟨port, side⟩).any (· ∈ filled) = false) :
    openSlots rows side filled (port :: ports) =
      port :: openSlots rows side ((groupOf rows ⟨port, side⟩).toList ++ filled) ports := by
  simp only [openSlots, leaders]
  have hkept : (groupOf rows ⟨port, side⟩).any (filled.contains ·) = false := by simpa using hopen
  rw [List.filter_cons, hkept, List.filter_filter]
  refine congrArg (port :: ·) (List.filter_congr fun other _ => ?_)
  cases hport : groupOf rows ⟨port, side⟩ with
  | none => exact Bool.and_true _
  | some key =>
    cases hother : groupOf rows ⟨other, side⟩ with
    | none => simp
    | some key' =>
      by_cases heq : key' = key <;> simp [heq]

end leaders

end CrossConnect
