import CrossConnect.Node.Plan
import Mathlib

/-!
The bundles of a cable. Each has the fibers of its number, and one after another they have all
fibers of the cable in the order of a drop; the bundles of a cable that was built from a plan are
those of the plan.
-/
namespace CrossConnect

/-! ### Sorting by groups -/

section groups

variable {α : Type} {key : α → UInt32} {le lex : α → α → Bool}

theorem insertBy_append_of_after {a : α} {bs : List α} (cs : List α)
    (h : ∀ b ∈ bs, lex a b = false) : insertBy lex a (bs ++ cs) = bs ++ insertBy lex a cs := by
  induction bs with
  | nil => rfl
  | cons b bs ih =>
    obtain ⟨hb, hbs⟩ := List.forall_mem_cons.1 h
    simp only [List.cons_append, insertBy, hb, Bool.false_eq_true, if_false]
    rw [ih hbs]

theorem insertBy_append_of_before {a : α} {bs cs : List α} (hbs : ∀ b ∈ bs, lex a b = le a b)
    (hcs : ∀ c ∈ cs, lex a c = true) : insertBy lex a (bs ++ cs) = insertBy le a bs ++ cs := by
  induction bs with
  | nil => exact insertBy_eq_cons hcs
  | cons b bs ih =>
    obtain ⟨hb, hbs⟩ := List.forall_mem_cons.1 hbs
    simp only [List.cons_append, insertBy, hb]
    split
    · rfl
    · rw [ih hbs, List.cons_append]

/-- An order that goes by a key first and by another order where the keys are equal. -/
structure KeyFirst (key : α → UInt32) (le lex : α → α → Bool) : Prop where
  same : ∀ a b, key a = key b → lex a b = le a b
  less : ∀ a b, key a < key b → lex a b = true
  more : ∀ a b, key b < key a → lex a b = false

variable (h : KeyFirst key le lex)

include h

theorem KeyFirst.insertBy_flatMap {a : α} {keys : List UInt32} (hkeys : keys.Pairwise (· < ·))
    (hmem : key a ∈ keys) {group : UInt32 → List α} (hgroup : ∀ n, ∀ b ∈ group n, key b = n) :
    insertBy lex a (keys.flatMap group) =
      keys.flatMap fun n => if n = key a then insertBy le a (group n) else group n := by
  induction keys with
  | nil => cases hmem
  | cons n keys ih =>
    obtain ⟨hn, hkeys⟩ := List.pairwise_cons.1 hkeys
    rw [List.flatMap_cons, List.flatMap_cons]
    by_cases hkey : n = key a
    · rw [if_pos hkey, insertBy_append_of_before fun b hb =>
        h.same a b (hkey ▸ (hgroup n b hb).symm)]
      · refine congrArg (_ ++ ·) (List.flatMap_congr fun m hm => (if_neg ?_).symm)
        exact hkey ▸ (UInt32.ne_of_lt (hn m hm)).symm
      · intro c hc
        obtain ⟨m, hm, hc⟩ := List.mem_flatMap.1 hc
        exact h.less a c (hkey ▸ hgroup m c hc ▸ hn m hm)
    · have hlater : key a ∈ keys := (List.mem_cons.1 hmem).resolve_left (Ne.symm hkey)
      rw [if_neg hkey, insertBy_append_of_after, ih hkeys hlater]
      exact fun b hb => h.more a b (hgroup n b hb ▸ hn _ hlater)

theorem KeyFirst.flatMap_sortBy_filter {keys : List UInt32} (hkeys : keys.Pairwise (· < ·))
    {as : List α} (has : ∀ a ∈ as, key a ∈ keys) :
    (keys.flatMap fun n => sortBy le (as.filter (key · = n))) = sortBy lex as := by
  induction as with
  | nil => exact List.flatMap_eq_nil_iff.2 fun _ _ => rfl
  | cons a as ih =>
    obtain ⟨ha, has⟩ := List.forall_mem_cons.1 has
    change _ = insertBy lex a (sortBy lex as)
    rw [← ih has, h.insertBy_flatMap hkeys ha]
    · refine List.flatMap_congr fun n _ => ?_
      by_cases hkey : key a = n
      · rw [if_pos hkey.symm, List.filter_cons_of_pos (by simpa using hkey)]
        rfl
      · rw [if_neg (Ne.symm hkey), List.filter_cons_of_neg (by simpa using hkey)]
    · intro n b hb
      simpa using (List.mem_filter.1 ((mem_sortBy le).1 hb)).2

omit h in
theorem filter_flatMap_group {β : Type} {number : β → UInt32} {groups : List β} {group : β → List α}
    (hdiffer : groups.Pairwise (number · ≠ number ·))
    (hgroup : ∀ g, ∀ a ∈ group g, key a = number g) {g : β} (hg : g ∈ groups) :
    (groups.flatMap group).filter (key · = number g) = group g := by
  have hown : ∀ g, (group g).filter (key · = number g) = group g := fun g =>
    List.filter_eq_self.2 fun a ha => decide_eq_true (hgroup g a ha)
  have hother : ∀ g', number g' ≠ number g → (group g').filter (key · = number g) = [] :=
    fun g' hne => List.filter_eq_nil_iff.2 fun a ha => by simpa [hgroup g' a ha] using hne
  rw [List.filter_flatMap]
  induction groups with
  | nil => cases hg
  | cons g' groups ih =>
    obtain ⟨hg', hdiffer⟩ := List.pairwise_cons.1 hdiffer
    rw [List.flatMap_cons]
    rcases List.mem_cons.1 hg with rfl | hg
    · have hrest : (groups.flatMap fun g' => (group g').filter (key · = number g)) = [] :=
        List.flatMap_eq_nil_iff.2 fun g' hmem => hother g' (hg' g' hmem).symm
      rw [hown, hrest, List.append_nil]
    · rw [hother g' (hg' g hg), ih hdiffer hg, List.nil_append]

end groups

/-! ### The bundles of any cable -/

section bundles

variable {cable : Cable} {bundle : Bundle}

theorem Fiber.keyFirst_dropOrder :
    KeyFirst Fiber.bundle (fun f g => decide (f.absolute ≤ g.absolute)) Fiber.dropOrder where
  same f g heq := by simp [dropOrder, heq, UInt32.lt_irrefl]
  less f g hlt := by simp [dropOrder, hlt]
  more f g hlt := by
    have hne : f.bundle ≠ g.bundle := (UInt32.ne_of_lt hlt).symm
    simp [dropOrder, hne, UInt32.le_of_lt hlt]

theorem Cable.numbers_bundles (cable : Cable) :
    cable.bundles.map (·.number) = ascending (cable.fibers.map (·.bundle)) := by
  rw [Cable.bundles, List.map_map]
  exact List.map_id _

theorem Cable.perm_of_mem_bundles (h : bundle ∈ cable.bundles) :
    bundle.fibers.Perm (cable.fibers.filter (·.bundle = bundle.number)) := by
  obtain ⟨n, -, rfl⟩ := List.mem_map.1 h
  exact sortBy_perm _ _

theorem Cable.fibers_ne_nil_of_mem_bundles (h : bundle ∈ cable.bundles) : bundle.fibers ≠ [] := by
  have hnumber : bundle.number ∈ cable.bundles.map (·.number) := List.mem_map_of_mem h
  rw [cable.numbers_bundles, mem_ascending] at hnumber
  obtain ⟨fiber, hfiber, heq⟩ := List.mem_map.1 hnumber
  have hmem : fiber ∈ bundle.fibers := (Cable.perm_of_mem_bundles h).mem_iff.2
    (List.mem_filter.2 ⟨hfiber, decide_eq_true heq⟩)
  exact List.ne_nil_of_mem hmem

theorem Cable.flatMap_bundles (cable : Cable) :
    cable.bundles.flatMap (·.fibers) = Fiber.sortByBundle cable.fibers := by
  rw [Cable.bundles, List.flatMap_map]
  refine Fiber.keyFirst_dropOrder.flatMap_sortBy_filter
    (pairwise_ascending _) fun fiber hfiber => ?_
  exact mem_ascending.2 (List.mem_map_of_mem hfiber)

end bundles

/-! ### The bundles of a planned cable -/

@[simp] theorem length_oneTo (count : UInt32) : (oneTo count).length = count.toNat := by
  rw [oneTo, List.length_map, List.length_range]

theorem map_toNat_oneTo (count : UInt32) :
    (oneTo count).map UInt32.toNat = List.range' 1 count.toNat := by
  rw [oneTo, List.map_map, List.range'_eq_map_range]
  refine List.map_congr_left fun i hi => ?_
  have hbound := count.toNat_lt
  have hbelow := List.mem_range.1 hi
  rw [Function.comp_apply, UInt32.toNat_ofNat_of_lt' (by simp only [UInt32.size]; omega),
    Nat.add_comm]

/-- How many fibers are planned for the bundles below a number. -/
def countBelow (bundles : List BundlePlan) (number : UInt32) : Nat :=
  ((bundles.filter (·.number < number)).map (·.fiberCount.toNat)).sum

/-- The bundle has the fibers planned for it: as many, numbered from 1 within the bundle, with
absolute numbers that go on from those of the bundles before, and coloured by their places in the
bundle. -/
structure BundlePlan.Filled (planned : BundlePlan) (before : Nat) (bundle : Bundle) : Prop where
  number : bundle.number = planned.number
  count : bundle.fibers.length = planned.fiberCount.toNat
  inBundle : bundle.fibers.map (·.inBundle.toNat) = List.range' 1 planned.fiberCount.toNat
  absolute :
    bundle.fibers.map (·.absolute.toNat) = List.range' (before + 1) planned.fiberCount.toNat
  colors : ∀ fiber ∈ bundle.fibers, fiber.color = colorOf fiber.inBundle

namespace CablePlan

variable {plan : CablePlan} {ids : IdSource} {planned : BundlePlan} {bundles : List BundlePlan}
  {before : Nat}

def fiberAt (plan : CablePlan) (ids : IdSource) : (UInt32 × UInt32) × Nat → Fiber
  | ((bundle, inBundle), i) =>
    { id := ⟨ids.draw (ids.drawn + i)⟩
      cableId := plan.id
      absolute := UInt32.ofNat (i + 1)
      inBundle
      bundle
      color := colorOf inBundle }

theorem fibers_build (plan : CablePlan) (ids : IdSource) :
    (plan.build ids).1.fibers = plan.positions.zipIdx.map (plan.fiberAt ids) :=
  rfl

def segment (plan : CablePlan) (ids : IdSource) (before : Nat) (planned : BundlePlan) :
    List Fiber :=
  (((oneTo planned.fiberCount).map (planned.number, ·)).zipIdx before).map (plan.fiberAt ids)

theorem countBelow_cons (number : UInt32) : countBelow (planned :: bundles) number =
    (if planned.number < number then planned.fiberCount.toNat else 0) +
      countBelow bundles number := by
  simp only [countBelow]
  split
  next h => rw [List.filter_cons_of_pos (by simpa using h), List.map_cons, List.sum_cons]
  next h => rw [List.filter_cons_of_neg (by simpa using h), Nat.zero_add]

theorem countBelow_eq_zero {number : UInt32} (h : ∀ b ∈ bundles, number < b.number) :
    countBelow bundles number = 0 := by
  have hnone : bundles.filter (·.number < number) = [] :=
    List.filter_eq_nil_iff.2 fun b hb => by simpa using UInt32.le_of_lt (h b hb)
  rw [countBelow, hnone]
  rfl

theorem countBelow_le (bundles : List BundlePlan) (number : UInt32) :
    countBelow bundles number ≤ (bundles.map (·.fiberCount.toNat)).sum :=
  (List.filter_sublist.map _).sum_le_sum fun _ _ => Nat.zero_le _

theorem countBelow_add_le (h : planned ∈ bundles) :
    countBelow bundles planned.number + planned.fiberCount.toNat ≤
      (bundles.map (·.fiberCount.toNat)).sum := by
  induction bundles with
  | nil => cases h
  | cons b bundles ih =>
    rw [countBelow_cons, List.map_cons, List.sum_cons]
    rcases List.mem_cons.1 h with rfl | h
    · have hle := countBelow_le bundles planned.number
      rw [if_neg (UInt32.lt_irrefl _)]
      omega
    · have hle := ih h
      split <;> omega

theorem countBelow_perm {bundles' : List BundlePlan} (h : bundles.Perm bundles') (number : UInt32) :
    countBelow bundles number = countBelow bundles' number :=
  ((h.filter _).map _).sum_eq

theorem map_fiberAt_flatMap (hbundles : bundles.Pairwise (·.number < ·.number)) (before : Nat) :
    ((bundles.flatMap fun b => (oneTo b.fiberCount).map (b.number, ·)).zipIdx before).map
        (plan.fiberAt ids) =
      bundles.flatMap fun b => plan.segment ids (before + countBelow bundles b.number) b := by
  induction bundles generalizing before with
  | nil => rfl
  | cons b bundles ih =>
    obtain ⟨hb, hbundles⟩ := List.pairwise_cons.1 hbundles
    rw [List.flatMap_cons, List.flatMap_cons, List.zipIdx_append, List.map_append, ih hbundles,
      countBelow_cons, if_neg (UInt32.lt_irrefl _), countBelow_eq_zero hb]
    refine congrArg (_ ++ ·) (List.flatMap_congr fun c hc => ?_)
    rw [countBelow_cons, if_pos (hb c hc), List.length_map, length_oneTo, Nat.add_assoc]

/-! What a segment holds. -/

theorem absolute_fiberAt {positions : List (UInt32 × UInt32)}
    (h : before + positions.length < 2 ^ 32) :
    ((positions.zipIdx before).map (plan.fiberAt ids)).map (·.absolute.toNat) =
      List.range' (before + 1) positions.length := by
  have hindices : ((positions.zipIdx before).map (plan.fiberAt ids)).map (·.absolute.toNat) =
      (List.range' before positions.length).map fun i => (UInt32.ofNat (i + 1)).toNat := by
    rw [← List.zipIdx_map_snd, List.map_map, List.map_map]
    rfl
  rw [hindices, Nat.add_comm before 1, ← List.map_add_range']
  refine List.map_congr_left fun i hi => ?_
  have hbelow := (List.mem_range'_1.1 hi).2
  rw [UInt32.toNat_ofNat_of_lt' (by simp only [UInt32.size]; omega), Nat.add_comm]

theorem inBundle_fiberAt (positions : List (UInt32 × UInt32)) :
    ((positions.zipIdx before).map (plan.fiberAt ids)).map (·.inBundle) =
      positions.map Prod.snd := by
  conv_rhs => rw [← List.zipIdx_map_fst before positions, List.map_map]
  rw [List.map_map]
  rfl

theorem length_segment : (plan.segment ids before planned).length = planned.fiberCount.toNat := by
  rw [segment, List.length_map, List.length_zipIdx, List.length_map, length_oneTo]

theorem bundle_of_mem_segment {fiber : Fiber} (h : fiber ∈ plan.segment ids before planned) :
    fiber.bundle = planned.number := by
  obtain ⟨⟨⟨bundle, inBundle⟩, i⟩, hplace, rfl⟩ := List.mem_map.1 h
  obtain ⟨place, -, heq⟩ := List.mem_map.1 (List.fst_mem_of_mem_zipIdx hplace)
  exact (congrArg Prod.fst heq).symm

theorem absolute_segment (h : before + planned.fiberCount.toNat < 2 ^ 32) :
    (plan.segment ids before planned).map (·.absolute.toNat) =
      List.range' (before + 1) planned.fiberCount.toNat := by
  have hlength : ((oneTo planned.fiberCount).map (planned.number, ·)).length =
      planned.fiberCount.toNat := by
    rw [List.length_map, length_oneTo]
  rw [segment, absolute_fiberAt (hlength.symm ▸ h), hlength]

theorem filled_segment (h : before + planned.fiberCount.toNat < 2 ^ 32) {bundle : Bundle}
    (hnumber : bundle.number = planned.number)
    (hfibers : bundle.fibers = plan.segment ids before planned) : planned.Filled before bundle := by
  refine ⟨hnumber, ?_, ?_, ?_, ?_⟩
  · rw [hfibers, length_segment]
  · have hinBundle :
        (plan.segment ids before planned).map (·.inBundle) = oneTo planned.fiberCount := by
      rw [segment, inBundle_fiberAt, List.map_map]
      exact List.map_id _
    rw [hfibers, ← map_toNat_oneTo, ← hinBundle, List.map_map]
    rfl
  · rw [hfibers, absolute_segment h]
  · rw [hfibers]
    intro fiber hfiber
    obtain ⟨place, -, rfl⟩ := List.mem_map.1 hfiber
    rfl

theorem pairwise_segment (h : before + planned.fiberCount.toNat < 2 ^ 32) :
    (plan.segment ids before planned).Pairwise (·.absolute ≤ ·.absolute) := by
  have hascends : ((plan.segment ids before planned).map (·.absolute.toNat)).Pairwise (· < ·) :=
    absolute_segment h ▸ List.pairwise_lt_range'
  exact (List.pairwise_map.1 hascends).imp fun hlt => UInt32.le_iff_toNat_le.2 (Nat.le_of_lt hlt)

/-! ### Splitting what was built -/

theorem pairwise_planned (hdistinct : (plan.bundles.map (·.number)).Nodup) :
    (sortBy (fun b c => decide (b.number ≤ c.number)) plan.bundles).Pairwise
      (·.number < ·.number) :=
  ascends_sortBy_number BundlePlan.number hdistinct

theorem fibers_eq_flatMap (hdistinct : (plan.bundles.map (·.number)).Nodup) :
    (plan.build ids).1.fibers =
      (sortBy (fun b c => decide (b.number ≤ c.number)) plan.bundles).flatMap fun b =>
        plan.segment ids (countBelow plan.bundles b.number) b := by
  rw [fibers_build, positions, map_fiberAt_flatMap (pairwise_planned hdistinct)]
  refine List.flatMap_congr fun b _ => ?_
  rw [Nat.zero_add, countBelow_perm (sortBy_perm _ plan.bundles)]

section split

variable (hdistinct : (plan.bundles.map (·.number)).Nodup)
  (htotal : (plan.bundles.map (·.fiberCount.toNat)).sum < 2 ^ 32)

include hdistinct

theorem filter_fibers_build (hmem : planned ∈ plan.bundles) :
    (plan.build ids).1.fibers.filter (·.bundle = planned.number) =
      plan.segment ids (countBelow plan.bundles planned.number) planned := by
  rw [fibers_eq_flatMap hdistinct]
  exact filter_flatMap_group ((pairwise_planned hdistinct).imp UInt32.ne_of_lt)
    (fun b fiber hfiber => bundle_of_mem_segment hfiber) ((mem_sortBy _).2 hmem)

theorem numbers_build : ascending ((plan.build ids).1.fibers.map (·.bundle)) =
    ((sortBy (fun b c => decide (b.number ≤ c.number)) plan.bundles).filter
      (0 < ·.fiberCount)).map (·.number) := by
  refine (pairwise_ascending _).eq_of_mem_iff
    (List.pairwise_map.2 ((pairwise_planned hdistinct).filter _)) fun number => ?_
  rw [mem_ascending, fibers_eq_flatMap hdistinct]
  simp only [List.mem_map, List.mem_flatMap, List.mem_filter, decide_eq_true_eq]
  constructor
  · rintro ⟨fiber, ⟨b, hb, hfiber⟩, rfl⟩
    have hsome := List.length_pos_of_mem hfiber
    rw [length_segment] at hsome
    exact ⟨b, ⟨hb, UInt32.lt_iff_toNat_lt.2 hsome⟩, (bundle_of_mem_segment hfiber).symm⟩
  · rintro ⟨b, ⟨hb, hcount⟩, rfl⟩
    have hsome : 0 < (plan.segment ids (countBelow plan.bundles b.number) b).length := by
      rw [length_segment]
      exact UInt32.lt_iff_toNat_lt.1 hcount
    obtain ⟨fiber, hfiber⟩ := List.exists_mem_of_length_pos hsome
    exact ⟨fiber, ⟨b, hb, hfiber⟩, bundle_of_mem_segment hfiber⟩

include htotal

omit hdistinct in
theorem absolute_build : (plan.build ids).1.fibers.map (·.absolute.toNat) =
    List.range' 1 (plan.bundles.map (·.fiberCount.toNat)).sum := by
  have hlength : plan.positions.length = (plan.bundles.map (·.fiberCount.toNat)).sum := by
    rw [positions, List.length_flatMap]
    simp only [List.length_map, length_oneTo]
    exact ((sortBy_perm _ plan.bundles).map _).sum_eq
  rw [fibers_build, absolute_fiberAt (by omega), hlength]

theorem pairwise_dropOrder_build :
    (plan.build ids).1.fibers.Pairwise fun f g => Fiber.dropOrder f g = true := by
  rw [fibers_eq_flatMap hdistinct, List.pairwise_flatMap]
  constructor
  · intro b hb
    have hbound := countBelow_add_le ((mem_sortBy _).1 hb)
    refine (pairwise_segment (hbound.trans_lt htotal)).imp_of_mem fun {f g} hf hg hle => ?_
    have hsame : f.bundle = g.bundle :=
      (bundle_of_mem_segment hf).trans (bundle_of_mem_segment hg).symm
    exact (Fiber.keyFirst_dropOrder.same f g hsame).trans (decide_eq_true hle)
  · refine (pairwise_planned hdistinct).imp fun hlt f hf g hg =>
      Fiber.keyFirst_dropOrder.less f g ?_
    rw [bundle_of_mem_segment hf, bundle_of_mem_segment hg]
    exact hlt

theorem bundles_eq_map : (plan.build ids).1.bundles =
    ((sortBy (fun b c => decide (b.number ≤ c.number)) plan.bundles).filter
      (0 < ·.fiberCount)).map fun b =>
        { cableId := plan.id
          cableName := plan.name
          number := b.number
          color := colorOf b.number
          fibers := plan.segment ids (countBelow plan.bundles b.number) b } := by
  rw [Cable.bundles, numbers_build hdistinct, List.map_map]
  refine List.map_congr_left fun b hb => ?_
  have hmem : b ∈ plan.bundles := (mem_sortBy _).1 (List.mem_of_mem_filter hb)
  have hbound := (countBelow_add_le hmem).trans_lt htotal
  have hsorted : Fiber.sortByAbsolute (plan.segment ids (countBelow plan.bundles b.number) b) =
      plan.segment ids (countBelow plan.bundles b.number) b :=
    sortBy_eq_self ((pairwise_segment hbound).imp fun hle => decide_eq_true hle)
  simp only [Function.comp_apply, filter_fibers_build hdistinct hmem, hsorted]
  rfl

end split

/-- Of a plan whose bundles differ in number and whose fibers can all be numbered, the cable has its
fibers numbered from 1, bundle by bundle, which is the order of a drop; and split again it has the
planned bundles that are not empty, in ascending order, each filled as planned. -/
theorem bundles_of_build (plan : CablePlan) (ids : IdSource)
    (hdistinct : (plan.bundles.map (·.number)).Nodup)
    (htotal : (plan.bundles.map (·.fiberCount.toNat)).sum < 2 ^ 32) :
    (plan.build ids).1.fibers.map (·.absolute.toNat) =
        List.range' 1 (plan.bundles.map (·.fiberCount.toNat)).sum ∧
      (plan.build ids).1.fibers.Pairwise (·.bundle ≤ ·.bundle) ∧
      Fiber.sortByBundle (plan.build ids).1.fibers = (plan.build ids).1.fibers ∧
      ∃ planned, planned.Perm (plan.bundles.filter (0 < ·.fiberCount)) ∧
        planned.Pairwise (·.number < ·.number) ∧
        List.Forall₂ (fun b bundle => b.Filled (countBelow plan.bundles b.number) bundle) planned
          (plan.build ids).1.bundles := by
  have horder : (plan.build ids).1.fibers.Pairwise fun f g => Fiber.dropOrder f g = true :=
    pairwise_dropOrder_build hdistinct htotal
  refine ⟨absolute_build htotal, ?_, sortBy_eq_self horder, _,
    (sortBy_perm _ plan.bundles).filter _, (pairwise_planned hdistinct).filter _, ?_⟩
  · refine horder.imp fun {f g} hfg => UInt32.not_lt.1 fun hlt => ?_
    rw [Fiber.keyFirst_dropOrder.more f g hlt] at hfg
    cases hfg
  · rw [bundles_eq_map hdistinct htotal, List.forall₂_map_right_iff, List.forall₂_same]
    intro b hb
    have hmem : b ∈ plan.bundles := (mem_sortBy _).1 (List.mem_of_mem_filter hb)
    exact filled_segment ((countBelow_add_le hmem).trans_lt htotal) rfl rfl

theorem bundles_of_small_build :
    let plan : CablePlan := ⟨⟨⟨1⟩⟩, "cable", [⟨7, 2⟩, ⟨5, 0⟩, ⟨2, 3⟩]⟩
    let cable := (plan.build (.numbered 0 0)).1
    cable.bundles.map (fun b => (b.number, b.fibers.map (·.absolute), b.fibers.map (·.color))) =
        [(2, [1, 2, 3], ["blue", "orange", "green"]), (7, [4, 5], ["blue", "orange"])] ∧
      cable.fibers.map (·.absolute.toNat) = List.range' 1 5 ∧
      Fiber.sortByBundle cable.fibers = cable.fibers := by
  intro plan cable
  have hdistinct : (plan.bundles.map (·.number)).Nodup := by decide
  have htotal : (plan.bundles.map (·.fiberCount.toNat)).sum < 2 ^ 32 := by decide
  obtain ⟨habsolute, -, hsorted, -⟩ := bundles_of_build plan (.numbered 0 0) hdistinct htotal
  exact ⟨by decide +kernel, habsolute, hsorted⟩

end CablePlan

end CrossConnect
