import CrossConnect.PortRun
import Mathlib

/-!
What the check of a future merge group promises: the ports it answers with are a run, each number
followed by its successor, of at least two ports and within the limit.
-/
namespace CrossConnect.PortRun

/-- Neighbouring numbers in ascending order from some lowest one. -/
def IsRun (ports : List PortNumber) : Prop :=
  ∃ lowest, ports.map UInt32.toNat = List.range' lowest ports.length

theorem isRun_cons_cons {p q : PortNumber} {ports : List PortNumber} :
    IsRun (p :: q :: ports) ↔ p.toNat + 1 = q.toNat ∧ IsRun (q :: ports) := by
  simp only [IsRun, List.map_cons, List.length_cons, List.range'_succ, List.cons.injEq]
  constructor
  · rintro ⟨lowest, hp, hq, hrest⟩
    exact ⟨by omega, q.toNat, rfl, by rw [hrest, ← hq]⟩
  · rintro ⟨hpq, lowest, hq, hrest⟩
    exact ⟨p.toNat, rfl, hpq.symm, by rw [hrest, hpq, hq]⟩

theorem isContiguous_iff {ports : List PortNumber} : isContiguous ports = true ↔ IsRun ports := by
  induction ports with
  | nil => exact ⟨fun _ => ⟨0, rfl⟩, fun _ => rfl⟩
  | cons p ports ih =>
    cases ports with
    | nil => exact ⟨fun _ => ⟨p.toNat, rfl⟩, fun _ => rfl⟩
    | cons q ports =>
      rw [isRun_cons_cons, ← ih, isContiguous, Bool.and_eq_true, decide_eq_true_eq]

theorem IsRun.pairwise_lt {ports : List PortNumber} (h : IsRun ports) :
    ports.Pairwise (· < ·) := by
  obtain ⟨lowest, hmap⟩ := h
  have hlt : (ports.map UInt32.toNat).Pairwise (· < ·) := hmap ▸ List.pairwise_lt_range'
  exact (List.pairwise_map.1 hlt).imp fun hab => UInt32.lt_iff_toNat_lt.2 hab

theorem IsRun.nodup {ports : List PortNumber} (h : IsRun ports) : ports.Nodup :=
  h.pairwise_lt.imp fun hab => UInt32.ne_of_lt hab

theorem IsRun.sortNumbers_eq {ports : List PortNumber} (h : IsRun ports) :
    sortNumbers ports = ports :=
  sortNumbers_eq_self (h.pairwise_lt.imp fun hab => UInt32.le_of_lt hab)

theorem sortNumbers_of_perm {ports ports' : List PortNumber} (h : ports.Perm ports') :
    sortNumbers ports = sortNumbers ports' :=
  ((sortBy_perm _ ports).trans (h.trans (sortBy_perm _ ports').symm)).eq_of_pairwise
    (fun _ _ _ _ => UInt32.le_antisymm) (pairwise_sortNumbers ports) (pairwise_sortNumbers ports')

theorem IsRun.length_le {ports : List PortNumber} (h : IsRun ports) : ports.length ≤ 2 ^ 32 := by
  have hnodup : (ports.map UInt32.toNat).Nodup :=
    h.nodup.map fun a b hab => UInt32.toNat_inj.1 hab
  have hsub : ports.map UInt32.toNat ⊆ List.range (2 ^ 32) := fun n hn => by
    obtain ⟨p, -, rfl⟩ := List.mem_map.1 hn
    exact List.mem_range.2 p.toNat_lt
  simpa using (List.subperm_of_subset hnodup hsub).length_le

theorem isRun_sortNumbers_iff {ports : List PortNumber} : IsRun (sortNumbers ports) ↔
    ∃ lowest, (ports.map UInt32.toNat).Perm (List.range' lowest ports.length) := by
  have hperm : ((sortNumbers ports).map UInt32.toNat).Perm (ports.map UInt32.toNat) :=
    (sortBy_perm _ ports).map _
  have hlength : (sortNumbers ports).length = ports.length := length_sortBy _ _
  refine exists_congr fun lowest => ?_
  rw [hlength]
  constructor
  · intro hmap
    rw [← hmap]
    exact hperm.symm
  · intro hrange
    have hsorted : ((sortNumbers ports).map UInt32.toNat).Pairwise (· ≤ ·) :=
      List.pairwise_map.2 ((pairwise_sortNumbers ports).imp UInt32.le_iff_toNat_le.1)
    exact (hperm.trans hrange).eq_of_pairwise (fun _ _ _ _ => Nat.le_antisymm) hsorted
      List.pairwise_le_range'

theorem validate_eq_ok_iff {ports sorted : List PortNumber} {limit : Option Nat} :
    validate ports limit = .ok sorted ↔ 2 ≤ ports.length ∧ (∀ most ∈ limit, ports.length ≤ most) ∧
      IsRun (sortNumbers ports) ∧ sorted = sortNumbers ports := by
  have hwithin : limit.filter (· < ports.length) = none ↔ ∀ most ∈ limit, ports.length ≤ most := by
    simp only [Option.filter_eq_none_iff, decide_eq_true_eq, Nat.not_lt, Option.mem_def]
  rw [← hwithin, ← isContiguous_iff, validate]
  split
  next hfew =>
    simp only [reduceCtorEq, false_iff]
    omega
  next hfew =>
    cases limit.filter (· < ports.length) with
    | some most => simp
    | none =>
      dsimp only
      split
      next hrun => simp [hrun, Nat.not_lt.1 hfew, eq_comm]
      next hrun => simp [hrun]

theorem validate_eq_ok {ports sorted : List PortNumber} {limit : Nat}
    (h : validate ports (some limit) = .ok sorted) :
    sorted = sortNumbers ports ∧ 2 ≤ sorted.length ∧ sorted.length ≤ limit ∧ IsRun sorted := by
  obtain ⟨htwo, hwithin, hrun, rfl⟩ := validate_eq_ok_iff.1 h
  rw [sortNumbers, length_sortBy]
  exact ⟨rfl, htwo, hwithin limit rfl, hrun⟩

/-! ### Runs by their lowest number -/

def numbersFrom (lowest count : Nat) : List PortNumber :=
  (List.range' lowest count).map UInt32.ofNat

theorem map_toNat_numbersFrom {lowest count : Nat} (h : lowest + count ≤ 2 ^ 32) :
    (numbersFrom lowest count).map UInt32.toNat = List.range' lowest count := by
  rw [numbersFrom, List.map_map]
  refine (List.map_congr_left fun n hn => ?_).trans (List.map_id _)
  have hbelow : n < lowest + count := (List.mem_range'_1.1 hn).2
  exact UInt32.toNat_ofNat_of_lt' (by simp only [UInt32.size]; omega)

theorem isRun_numbersFrom {lowest count : Nat} (h : lowest + count ≤ 2 ^ 32) :
    IsRun (numbersFrom lowest count) := by
  refine ⟨lowest, ?_⟩
  rw [map_toNat_numbersFrom h, numbersFrom, List.length_map, List.length_range']

theorem IsRun.exists_lowest {ports : List PortNumber} (h : IsRun ports) :
    ∃ lowest, lowest + ports.length ≤ 2 ^ 32 ∧ ports = numbersFrom lowest ports.length := by
  obtain ⟨lowest, hmap⟩ := h
  cases ports with
  | nil => exact ⟨0, Nat.zero_le _, rfl⟩
  | cons p ports =>
    have hlast : lowest + ports.length ∈ (p :: ports).map UInt32.toNat := by
      rw [hmap, List.mem_range'_1, List.length_cons]
      omega
    obtain ⟨last, -, hnumber⟩ := List.mem_map.1 hlast
    have hbound := last.toNat_lt
    refine ⟨lowest, ?_, ?_⟩
    · rw [List.length_cons]
      omega
    · rw [numbersFrom, ← hmap, List.map_map]
      exact (List.map_id'' (fun _ => UInt32.ofNat_toNat) _).symm

theorem validate_of_perm {ports ports' : List PortNumber} (limit : Option Nat)
    (h : ports.Perm ports') : validate ports limit = validate ports' limit := by
  simp only [validate, h.length_eq, sortNumbers_of_perm h]

/-- The ports are accepted when they are, in any order, the numbers from some lowest one on, at
least two of them and no more than the limit; the answer has them in ascending order. Another order
of the ports changes neither the answer nor the failure. -/
theorem validate_eq_run_iff (ports : List PortNumber) (limit : Option Nat) :
    (∀ run, validate ports limit = .ok run ↔
      2 ≤ ports.length ∧ (∀ most ∈ limit, ports.length ≤ most) ∧
        ∃ lowest, lowest + ports.length ≤ 2 ^ 32 ∧ ports.Perm (numbersFrom lowest ports.length) ∧
          run = numbersFrom lowest ports.length) ∧
      ∀ ports', ports.Perm ports' → validate ports' limit = validate ports limit := by
  refine ⟨fun run => ?_, fun ports' hperm => (validate_of_perm limit hperm).symm⟩
  rw [validate_eq_ok_iff]
  refine and_congr_right fun _ => and_congr_right fun _ => ?_
  have hsorted : (sortNumbers ports).Perm ports := sortBy_perm _ ports
  constructor
  · rintro ⟨hrun, rfl⟩
    obtain ⟨lowest, hbound, hlowest⟩ := hrun.exists_lowest
    rw [hsorted.length_eq] at hbound hlowest
    exact ⟨lowest, hbound, hlowest ▸ hsorted.symm, hlowest⟩
  · rintro ⟨lowest, hbound, hperm, rfl⟩
    have hrun := isRun_numbersFrom hbound
    have heq : sortNumbers ports = numbersFrom lowest ports.length :=
      (sortNumbers_of_perm hperm).trans hrun.sortNumbers_eq
    exact ⟨heq ▸ hrun, heq.symm⟩

theorem validate_highest_numbers :
    [4294967295, 4294967293, 4294967294].Perm [4294967293, 4294967294, (4294967295 : PortNumber)] ∧
      validate [4294967295, 4294967293, 4294967294] (some 3) =
        .ok [4294967293, 4294967294, 4294967295] ∧
      validate [4294967293, 4294967294, 4294967295] (some 3) =
        validate [4294967295, 4294967293, 4294967294] (some 3) := by
  have hperm : [4294967295, 4294967293, 4294967294].Perm
      [4294967293, 4294967294, (4294967295 : PortNumber)] := by decide
  obtain ⟨haccepts, hperms⟩ := validate_eq_run_iff [4294967295, 4294967293, 4294967294] (some 3)
  refine ⟨hperm, (haccepts _).2 ⟨by decide, by simp, 4294967293, by decide, hperm, rfl⟩,
    hperms _ hperm⟩

end CrossConnect.PortRun
