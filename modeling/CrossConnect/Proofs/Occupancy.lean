import CrossConnect.Proofs.Editor

/-!
Free ports without sorting and cutting: they are found by walking up a side number by number, past
the numbers that are no ports, to the first port that is taken. A port is taken when its row has a
fiber or a row that is merged with it has one.
-/
namespace CrossConnect.Occupancy

variable {ports : List Port} {rows : List Splice} {side : Side} {start port : PortNumber}

/-! ### Walking up a side -/

def isPort (ports : List Port) (side : Side) (port : PortNumber) : Bool :=
  ports.any fun p => decide (p.number = port ∧ p.direction = side.direction)

def upward (ports : List Port) (side : Side) (start : PortNumber) : List PortNumber :=
  match ((ports.filter (·.direction = side.direction)).map (·.number.toNat)).max? with
  | some highest => (List.range' start.toNat (highest + 1 - start.toNat)).map UInt32.ofNat
  | none => []

/-- Goes through numbers one by one, past those that are no ports of the side, up to the first port
that is occupied. -/
def scan (ports : List Port) (rows : List Splice) (side : Side) : List PortNumber → List PortNumber
  | [] => []
  | n :: numbers =>
    if isPort ports side n then
      if isOccupied rows ⟨n, side⟩ then [] else n :: scan ports rows side numbers
    else scan ports rows side numbers

theorem isPort_iff : isPort ports side port = true ↔
    ∃ p ∈ ports, p.direction = side.direction ∧ p.number = port := by
  simp only [isPort, List.any_eq_true, decide_eq_true_eq, and_comm]

theorem mem_sidePorts : port ∈ sidePorts ports side ↔ isPort ports side port = true := by
  simp only [sidePorts, mem_ascending, List.mem_map, List.mem_filter, decide_eq_true_eq, isPort_iff,
    and_assoc]

theorem scan_eq (numbers : List PortNumber) : scan ports rows side numbers =
    (numbers.filter (isPort ports side)).takeWhile fun port => !isOccupied rows ⟨port, side⟩ := by
  induction numbers with
  | nil => rfl
  | cons n numbers ih =>
    rw [scan]
    split
    next hport =>
      rw [List.filter_cons_of_pos hport]
      split
      next htaken => rw [List.takeWhile_cons_of_neg (by simp [htaken])]
      next hfree => rw [List.takeWhile_cons_of_pos (by simp [hfree]), ih]
    next hport => rw [List.filter_cons_of_neg hport, ih]

theorem pairwise_upward : (upward ports side start).Pairwise (· < ·) := by
  rw [upward]
  split
  next highest hmax =>
    obtain ⟨hmem, -⟩ := List.max?_eq_some_iff.1 hmax
    obtain ⟨p, -, rfl⟩ := List.mem_map.1 hmem
    -- No number of the range is beyond the highest port, so that none of them wraps around.
    refine List.pairwise_map.2 ((List.pairwise_lt_range' 1).imp_of_mem fun {m n} hm hn hlt => ?_)
    rw [List.mem_range'_1] at hm hn
    have hbound := p.number.toNat_lt
    rwa [UInt32.lt_iff_toNat_lt, UInt32.toNat_ofNat_of_lt' (by simp [UInt32.size]; omega),
      UInt32.toNat_ofNat_of_lt' (by simp [UInt32.size]; omega)]
  next => exact .nil

theorem mem_upward (hport : isPort ports side port = true) :
    port ∈ upward ports side start ↔ start ≤ port := by
  obtain ⟨p, hp, hside, rfl⟩ := isPort_iff.1 hport
  have hmem : p.number.toNat ∈ (ports.filter (·.direction = side.direction)).map (·.number.toNat) :=
    List.mem_map.2 ⟨p, List.mem_filter.2 ⟨hp, decide_eq_true hside⟩, rfl⟩
  rw [upward]
  split
  next highest hmax =>
    have hle := (List.max?_eq_some_iff.1 hmax).2 _ hmem
    rw [List.mem_map, UInt32.le_iff_toNat_le]
    constructor
    · rintro ⟨n, hn, hnumber⟩
      rw [List.mem_range'_1] at hn
      obtain ⟨q, -, hq⟩ := List.mem_map.1 (List.max?_eq_some_iff.1 hmax).1
      have hbound := q.number.toNat_lt
      rw [← hnumber, UInt32.toNat_ofNat_of_lt' (by simp [UInt32.size]; omega)]
      exact hn.1
    · intro hstart
      exact ⟨p.number.toNat, List.mem_range'_1.2 ⟨hstart, by omega⟩, UInt32.ofNat_toNat⟩
  next hnone =>
    rw [List.max?_eq_none_iff.1 hnone] at hmem
    cases hmem

theorem sidePorts_from (ports : List Port) (side : Side) (start : PortNumber) :
    (sidePorts ports side).filter (start ≤ ·) =
      (upward ports side start).filter (isPort ports side) := by
  have hsorted : (sidePorts ports side).Pairwise (· < ·) := pairwise_ascending _
  have hupward : (upward ports side start).Pairwise (· < ·) := pairwise_upward
  refine (hsorted.filter (start ≤ ·)).eq_of_mem_iff
    (hupward.filter (isPort ports side)) fun port => ?_
  rw [List.mem_filter, List.mem_filter, mem_sidePorts, decide_eq_true_eq, and_comm]
  exact and_congr_left fun hport => (mem_upward hport).symm

theorem pairwise_available : (available ports rows side start).Pairwise (· < ·) :=
  ((pairwise_ascending _).filter _).sublist (List.takeWhile_sublist _)

theorem mem_takeWhile_iff {numbers : List UInt32} (h : numbers.Pairwise (· < ·))
    {keep : UInt32 → Bool} {n : UInt32} : n ∈ numbers.takeWhile keep ↔
      n ∈ numbers ∧ ∀ m ∈ numbers, m ≤ n → keep m = true := by
  induction numbers with
  | nil => simp
  | cons first numbers ih =>
    obtain ⟨hfirst, hrest⟩ := List.pairwise_cons.1 h
    by_cases hkeep : keep first = true
    · rw [List.takeWhile_cons_of_pos hkeep, List.mem_cons, List.mem_cons, ih hrest,
        List.forall_mem_cons]
      constructor
      · rintro (rfl | ⟨hmem, hall⟩)
        · refine ⟨.inl rfl, fun _ => hkeep, fun m hm hle => ?_⟩
          exact absurd (hfirst m hm) (UInt32.not_lt.2 hle)
        · exact ⟨.inr hmem, fun _ => hkeep, hall⟩
      · rintro ⟨rfl | hmem, -, hall⟩
        · exact .inl rfl
        · exact .inr ⟨hmem, hall⟩
    · rw [List.takeWhile_cons_of_neg hkeep]
      refine iff_of_false List.not_mem_nil ?_
      rintro ⟨hmem, hall⟩
      refine hkeep (hall first List.mem_cons_self ?_)
      rcases List.mem_cons.1 hmem with rfl | hmem
      · exact UInt32.le_refl _
      · exact UInt32.le_of_lt (hfirst n hmem)

theorem mem_available : port ∈ available ports rows side start ↔
    isPort ports side port = true ∧ start ≤ port ∧
      ∀ q, isPort ports side q = true → start ≤ q → q ≤ port →
        isOccupied rows ⟨q, side⟩ = false := by
  have hsorted : ((sidePorts ports side).filter (start ≤ ·)).Pairwise (· < ·) :=
    (pairwise_ascending _).filter _
  rw [available, mem_takeWhile_iff hsorted]
  simp only [List.mem_filter, mem_sidePorts, decide_eq_true_eq, Bool.not_eq_true',
    and_assoc, and_imp]

/-! ### Occupied ports -/

/-- The row has a fiber on a side, or a row that is merged with it there has one. -/
def HasFiber (rows : List Splice) (side : Side) (row : Splice) : Prop :=
  match row.group side with
  | none => (row.fiber side).isSome = true
  | some key => ∃ member ∈ rows, member.group side = some key ∧ (member.fiber side).isSome = true

theorem isOccupied_of_row {found : Splice} (h : row rows port = some found) :
    isOccupied rows ⟨port, side⟩ = true ↔ HasFiber rows side found := by
  have hmem : found ∈ rows := List.mem_of_find?_eq_some h
  simp only [isOccupied, occupant, h, HasFiber]
  cases hgroup : found.group side with
  | none => cases hfiber : found.fiber side <;> simp
  | some key =>
    dsimp only
    cases hfiber : found.fiber side with
    | some fiber =>
      exact iff_of_true rfl ⟨found, hmem, hgroup, by rw [hfiber]; rfl⟩
    | none =>
      simp only [List.findSome?_isSome_iff, List.mem_filter, decide_eq_true_eq, and_assoc]

theorem isOccupied_of_no_row (h : row rows port = none) : isOccupied rows ⟨port, side⟩ = false := by
  simp only [isOccupied, occupant, h]
  rfl

theorem isOccupied_iff (h : PortsDiffer rows) : isOccupied rows ⟨port, side⟩ = true ↔
    ∃ found ∈ rows, found.port = port ∧ HasFiber rows side found := by
  cases hrow : row rows port with
  | none =>
    rw [isOccupied_of_no_row hrow]
    refine iff_of_false Bool.false_ne_true ?_
    rintro ⟨found, hmem, hport, -⟩
    rw [(row_eq_some_iff h).2 ⟨hmem, hport⟩] at hrow
    cases hrow
  | some found =>
    rw [isOccupied_of_row hrow]
    constructor
    · intro hfiber
      exact ⟨found, List.mem_of_find?_eq_some hrow, port_of_row hrow, hfiber⟩
    · rintro ⟨other, hmem, hport, hfiber⟩
      rw [(row_eq_some_iff h).2 ⟨hmem, hport⟩] at hrow
      exact Option.some.inj hrow ▸ hfiber

theorem isOccupied_of_groupOf {other : PortNumber} {key : MergeGroupId}
    (h : groupOf rows ⟨port, side⟩ = some key) (h' : groupOf rows ⟨other, side⟩ = some key) :
    isOccupied rows ⟨port, side⟩ = isOccupied rows ⟨other, side⟩ := by
  obtain ⟨found, hfound, hgroup⟩ := Option.bind_eq_some_iff.1 h
  obtain ⟨found', hfound', hgroup'⟩ := Option.bind_eq_some_iff.1 h'
  rw [Bool.eq_iff_iff, isOccupied_of_row hfound, isOccupied_of_row hfound']
  simp only [HasFiber, hgroup, hgroup']

/-- The free ports of a side from a port upward are those that a walk over all numbers finds: in
ascending order, the ports of the side with no occupied port between them and the start. Where no
two rows are of one port, a port is occupied when its row or one merged with it has a fiber, and so
are all ports of a merge group or none. -/
theorem available_eq_scan (ports : List Port) (rows : List Splice) (side : Side)
    (start : PortNumber) :
    available ports rows side start = scan ports rows side (upward ports side start) ∧
      (available ports rows side start).Pairwise (· < ·) ∧
      (∀ port, port ∈ available ports rows side start ↔
        isPort ports side port = true ∧ start ≤ port ∧ ∀ q, isPort ports side q = true →
          start ≤ q → q ≤ port → isOccupied rows ⟨q, side⟩ = false) ∧
      (PortsDiffer rows →
        (∀ port, isOccupied rows ⟨port, side⟩ = true ↔
          ∃ found ∈ rows, found.port = port ∧ HasFiber rows side found) ∧
        ∀ port other key, groupOf rows ⟨port, side⟩ = some key →
          groupOf rows ⟨other, side⟩ = some key →
          isOccupied rows ⟨port, side⟩ = isOccupied rows ⟨other, side⟩) := by
  refine ⟨?_, pairwise_available, fun port => mem_available, fun hdiffer => ?_⟩
  · rw [scan_eq, ← sidePorts_from]
    rfl
  · exact ⟨fun port => isOccupied_iff hdiffer, fun port other key => isOccupied_of_groupOf⟩

theorem available_from_within_group :
    let ports : List Port := [4294967295, 2, 5, 2, 4294967294].map (⟨·, .inward, none⟩)
    let merged : Splice :=
      { id := .persisted ⟨1⟩, structureId := ⟨⟨2⟩⟩, port := 5,
        endpointA := { group := some ⟨⟨3⟩⟩ } }
    let fiber : Termination := ⟨⟨⟨4⟩⟩, ⟨⟨5⟩⟩, 1, 1, "blue", "cable"⟩
    let rows : List Splice := [merged, { (merged.setFiber .a (some fiber)) with port := 2 }]
    available ports rows .a 3 = [] ∧ available ports rows .a 6 = [4294967294, 4294967295] ∧
      isOccupied rows ⟨5, .a⟩ = isOccupied rows ⟨2, .a⟩ ∧
      available ports rows .a 6 = scan ports rows .a (upward ports .a 6) := by
  intro ports merged fiber rows
  have hdiffer : (rows.map (·.port)).Nodup := by decide
  obtain ⟨hscan, -, -, hoccupied⟩ := available_eq_scan ports rows .a 6
  exact ⟨by decide, by decide, (hoccupied hdiffer).2 5 2 ⟨⟨3⟩⟩ rfl rfl, hscan⟩

end CrossConnect.Occupancy
