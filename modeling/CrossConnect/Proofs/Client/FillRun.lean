import CrossConnect.Proofs.Client.FillPlan
import CrossConnect.Proofs.Client.Move

/-!
Fills keep to their plan: one placement after another is sent, until one fails or the plan is done,
and what was accepted is what the authority shows in the end.
-/
namespace CrossConnect

open Client

/-! ### Placements among the exchanges -/

def Exchange.placement? (e : Exchange) : Option Placement :=
  match e.call with
  | .place p => some p
  | _ => none

def placementsOf (exchanges : List Exchange) : List Placement :=
  exchanges.filterMap Exchange.placement?

def acceptedOf (exchanges : List Exchange) : List Placement :=
  placementsOf (exchanges.filter Exchange.succeeded)

theorem placementsOf_concat (exchanges : List Exchange) (e : Exchange) :
    placementsOf (exchanges ++ [e]) = placementsOf exchanges ++ e.placement?.toList := by
  simp only [placementsOf]
  rw [List.filterMap_append, List.filterMap_cons]
  cases e.placement? <;> rfl

theorem acceptedOf_sublist (exchanges : List Exchange) :
    (acceptedOf exchanges).Sublist (placementsOf exchanges) :=
  List.filter_sublist.filterMap _

theorem acceptedOf_eq {exchanges : List Exchange} (h : ∀ e ∈ exchanges, e.succeeded = true) :
    acceptedOf exchanges = placementsOf exchanges := by
  rw [acceptedOf, List.filter_eq_self.2 h]

theorem acceptedOf_concat (exchanges : List Exchange) (e : Exchange) :
    acceptedOf (exchanges ++ [e]) =
      acceptedOf exchanges ++ if e.succeeded then e.placement?.toList else [] := by
  simp only [acceptedOf]
  rw [List.filter_append]
  split
  next h => rw [List.filter_cons_of_pos h, List.filter_nil, placementsOf_concat]
  next h =>
    rw [List.filter_cons_of_neg h, List.filter_nil, List.append_nil, List.append_nil]

/-! ### A fill under way -/

structure Going (r : Registry) (done : List Placement) (line : Server × List Exchange) : Prop where
  places : r.Places done line.1.registry
  sent : placementsOf line.2 = done
  succeeded : ∀ e ∈ line.2, e.succeeded = true

structure Halted (r : Registry) (planned : List Placement) (line : Server × List Exchange) :
    Prop where
  places : r.Places (acceptedOf line.2) line.1.registry
  sent : placementsOf line.2 <+: planned
  succeeded : ∀ e ∈ line.2.dropLast, e.succeeded = true
  failed : ∃ e ∈ line.2, e.succeeded = false

def Ended (r : Registry) (planned : List Placement) (line : Server × List Exchange) : Prop :=
  Going r planned line ∨ Halted r planned line

section going

variable {r : Registry} {done planned planned' : List Placement} {p : Placement}
  {line line' : Server × List Exchange} {e : Exchange}

theorem Halted.mono (h : Halted r planned line) (hplanned : planned <+: planned') :
    Halted r planned' line :=
  ⟨h.places, h.sent.trans hplanned, h.succeeded, h.failed⟩

theorem Going.record (h : Going r done line) (hrecord : line'.2 = line.2 ++ [e])
    (hsucceeded : e.succeeded = true) :
    placementsOf line'.2 = done ++ e.placement?.toList ∧ ∀ e ∈ line'.2, e.succeeded = true := by
  rw [hrecord]
  refine ⟨by rw [placementsOf_concat, h.sent], fun e he => ?_⟩
  rcases List.mem_append.1 he with he | he
  · exact h.succeeded e he
  · exact List.mem_singleton.1 he ▸ hsucceeded

theorem Going.read (h : Going r done line) (hrecord : line'.2 = line.2 ++ [e])
    (hsucceeded : e.succeeded = true) (hother : e.placement? = none)
    (hsame : line'.1.registry = line.1.registry) : Going r done line' := by
  obtain ⟨hsent, hall⟩ := h.record hrecord hsucceeded
  rw [hother] at hsent
  exact ⟨hsame ▸ h.places, hsent.trans (List.append_nil done), hall⟩

theorem Going.placed (h : Going r done line) {row : Splice}
    (hrecord : line'.2 = line.2 ++ [⟨.place p, .ok row⟩])
    (hplace : line.1.registry.place p = .ok (row, line'.1.registry)) :
    Going r (done ++ [p]) line' := by
  obtain ⟨hsent, hall⟩ := h.record hrecord rfl
  exact ⟨.snoc h.places hplace, hsent, hall⟩

theorem Going.halted (h : Going r done line) (hrecord : line'.2 = line.2 ++ [e])
    (hfailed : e.succeeded = false) (hplanned : e.placement?.toList <+: planned)
    (hsame : line'.1.registry = line.1.registry) : Halted r (done ++ planned) line' := by
  refine ⟨?_, ?_, ?_, e, ?_, hfailed⟩
  · rw [hrecord, acceptedOf_concat, hfailed, acceptedOf_eq h.succeeded, h.sent, hsame]
    exact (List.append_nil done).symm ▸ h.places
  · rw [hrecord, placementsOf_concat, h.sent]
    exact List.prefix_append_right_inj done |>.2 hplanned
  · rw [hrecord, List.dropLast_concat]
    exact h.succeeded
  · rw [hrecord]
    exact List.mem_append_right _ (List.mem_singleton_self e)

theorem Going.lost (h : Going r done line) (hrecord : line'.2 = line.2 ++ [e])
    (hfailed : e.succeeded = false) (hother : e.placement? = none)
    (hsame : line'.1.registry = line.1.registry) : Halted r done line' := by
  have hnil : e.placement?.toList <+: [] := hother ▸ List.prefix_rfl
  exact List.append_nil done ▸ h.halted hrecord hfailed hnil hsame

theorem Going.written (h : Going r done line) {ok : Bool}
    (hwritten : Written (.place p) line ok line') (hsent : line.2.length < line'.2.length) :
    if ok then Going r (done ++ [p]) line' else Halted r (done ++ [p]) line' := by
  cases hwritten with
  | unsent => exact absurd hsent (Nat.lt_irrefl _)
  | refused e record same => exact h.halted record rfl List.prefix_rfl same
  | lost a id e record performed =>
    have hplaced : Going r (done ++ [p]) (line'.1, line.2 ++ [⟨.place p, .ok a⟩]) :=
      h.placed rfl performed
    exact hplaced.lost record rfl rfl rfl
  | confirmed a record performed => exact h.placed record performed
  | reloaded a id rows record performed =>
    have hplaced : Going r (done ++ [p]) (line'.1, line.2 ++ [⟨.place p, .ok a⟩]) :=
      h.placed rfl performed
    exact hplaced.read record rfl rfl rfl

end going

/-! ### One placement -/

section placeOne

variable {loses : List Exchange → Call → Option Failure} {r : Registry} {done : List Placement}
  {α : Type} {c : Client} {line : Server × List Exchange} {spot : PortSide} {id : StructureId}

theorem prefix_progress (p : Progress α) (line : Server × List Exchange) :
    line.2 <+: (p.run (Authority.lossy loses Server.answer) line).2.2.2 := by
  induction p generalizing line with
  | done c value => exact List.prefix_rfl
  | waits c call resume ih =>
    obtain ⟨hrecord, -, -⟩ := Server.lossy_cases loses line call
    exact (hrecord ▸ List.prefix_append ..).trans (ih _ c _)

theorem leads_sent {write : Call} {settle : write.Answer → Attempt α} :
    Leads loses (Attempt.call write >>= settle).run
      (fun _ line' => line.2.length < line'.2.length) c line := by
  refine (Job.ends_attempt fun _ _ _ => trivial).2 (Server.ends_call ?_ ?_)
  · intro e line' _ hrecord _ _
    change line.2.length < line'.2.length
    rw [hrecord, List.length_append]
    exact Nat.lt_succ_self _
  · intro a line' _ hrecord _ _ _
    refine Nat.lt_of_lt_of_le ?_ (prefix_progress ((settle a).run c) line').length_le
    rw [hrecord, List.length_append]
    exact Nat.lt_succ_self _

theorem leads_assign_sent (hport : spot.port ∈ Occupancy.sidePorts c.editor.ports spot.side)
    (fiber : LabelledFiber) :
    Leads loses (assign id spot fiber).run (fun _ line' => line.2.length < line'.2.length) c
      line := by
  simp only [assign]
  refine (Job.ends_attempt fun _ _ _ => trivial).2 ?_
  rw [checkMerged, ExceptT.run_mk, Job.ends_bind_client, Job.ends_pure]
  intro _
  simp only [requirePort, if_pos hport]
  simp only [optimistically]
  refine leads_client (leads_update (leads_bind leads_sent ?_))
  rintro (e | settlement) c line' hsent
  · exact leads_update fun _ => hsent
  · exact leads_update fun _ => hsent

def Ready (target : FillTarget) (side : Side) (c : Client) (line : Server × List Exchange) : Prop :=
  target.inEditor = true → ∃ structures selected, Aligned structures (some selected) c line ∧
    target.structureId = selected.record.id ∧
      ∀ port ∈ target.ports, port ∈ Occupancy.sidePorts selected.ports side

theorem ready_elsewhere {target : FillTarget} {side : Side} (h : target.inEditor = false) :
    Ready target side c line :=
  fun heditor => Bool.noConfusion (h.symm.trans heditor)

theorem ends_placeOne (h : Going r done line) {target : FillTarget} {side : Side}
    (hready : Ready target side c line) {port : PortNumber} (hport : port ∈ target.ports)
    (fiber : LabelledFiber) :
    Job.Ends (Authority.lossy loses Server.answer) (fun _ => True)
      (placeOne target ⟨port, side⟩ fiber).run (fun
        | .ok _, c', line' =>
            Going r (done ++ [⟨target.structureId, ⟨port, side⟩, fiber.fiber.ref⟩]) line' ∧
              Ready target side c' line'
        | .error _, _, line' =>
            Halted r (done ++ [⟨target.structureId, ⟨port, side⟩, fiber.fiber.ref⟩]) line') c
      line := by
  simp only [placeOne]
  split
  next heditor =>
    obtain ⟨structures, selected, haligned, hid, hports⟩ := hready heditor
    have hsent : Leads loses (assign target.structureId ⟨port, side⟩ fiber).run
        (fun _ line' => line.2.length < line'.2.length) c line := by
      refine leads_assign_sent ?_ fiber
      simp only [Editor.ports]
      rw [haligned.selected]
      exact hports port hport
    rw [hid] at hsent ⊢
    refine ((ends_assign haligned ⟨port, side⟩ fiber).and hsent).mono ?_
    rintro (e | _) c' line' - ⟨⟨hwritten, haligned'⟩, hgrown⟩
    · exact h.written hwritten hgrown
    · exact ⟨h.written hwritten hgrown, fun _ => ⟨structures, selected, haligned' rfl, hid, hports⟩⟩
  next hremote =>
    refine (Job.ends_attempt fun _ _ _ => trivial).2 (Server.ends_call ?_ ?_)
    · exact fun e line' _ hrecord _ hsame => h.halted hrecord rfl List.prefix_rfl hsame
    · exact fun row line' _ hrecord _ hplace _ =>
        ⟨h.placed hrecord hplace, fun heditor => absurd heditor hremote⟩

end placeOne

/-! ### One structure -/

section fillPorts

open Occupancy

variable {loses : List Exchange → Call → Option Failure} {r : Registry} {done : List Placement}
  {c : Client} {line : Server × List Exchange} {target : FillTarget} {side : Side}
  {ports : List PortNumber}

def FillTarget.planned (target : FillTarget) (side : Side) (filled : List MergeGroupId)
    (ports : List PortNumber) (fibers : List LabelledFiber) : List Placement :=
  placing ((openSlots target.rows side filled ports).map fun port =>
    (target.structureId, ⟨port, side⟩)) (fibers.map (·.fiber))

def Passes (r : Registry) (done planned : List Placement) (count : Nat) (pass : FillPass)
    (line : Server × List Exchange) : Prop :=
  match pass.failure with
  | none => Going r (done ++ planned) line ∧ pass.placed = count + planned.length
  | some _ => Halted r (done ++ planned) line

theorem Passes.nil {pass : FillPass} (h : Going r done line) (hnone : pass.failure = none) :
    Passes r done [] pass.placed pass line := by
  simp only [Passes, hnone]
  exact ⟨(List.append_nil done).symm ▸ h, rfl⟩

theorem Passes.rest {planned : List Placement} {p : Placement} {count : Nat} {pass : FillPass}
    (h : Passes r (done ++ [p]) planned (count + 1) pass line) :
    Passes r done (p :: planned) count pass line := by
  simp only [Passes, List.append_assoc, List.singleton_append, List.length_cons] at h ⊢
  split
  next hnone =>
    rw [hnone] at h
    exact ⟨h.1, by rw [h.2]; omega⟩
  next e hfailure =>
    rw [hfailure] at h
    exact h

theorem ends_fillPorts (fibers : List LabelledFiber) (filled : List MergeGroupId) (pass : FillPass)
    (hnone : pass.failure = none) (h : Going r done line) (hready : Ready target side c line)
    (hports : ports ⊆ target.ports) :
    Job.Ends (Authority.lossy loses Server.answer) (fun _ => True)
      (fillPorts target side ports fibers filled pass)
      (fun pass' _ line' =>
        Passes r done (target.planned side filled ports fibers) pass.placed pass' line')
          c line := by
  -- What is planned for the ports that are left is what is placed on them, less the merge groups
  -- that have had their fiber.
  induction ports generalizing fibers filled pass done c line with
  | nil => exact fun _ => .nil h hnone
  | cons port ports ih =>
    obtain ⟨hport, hports⟩ := List.cons_subset.1 hports
    cases fibers with
    | nil =>
      have hplanned : target.planned side filled (port :: ports) [] = [] := placing_nil _
      rw [hplanned]
      exact fun _ => .nil h hnone
    | cons fiber fibers =>
      simp only [fillPorts]
      split
      next hfilled =>
        have hplanned : target.planned side filled (port :: ports) (fiber :: fibers) =
            target.planned side filled ports (fiber :: fibers) := by
          simp only [FillTarget.planned]
          rw [openSlots_cons_filled hfilled]
        rw [hplanned]
        exact ih (fiber :: fibers) filled pass hnone h hready hports
      next hopen =>
        have hplanned : target.planned side filled (port :: ports) (fiber :: fibers) =
            ⟨target.structureId, ⟨port, side⟩, fiber.fiber.ref⟩ ::
              target.planned side ((groupOf target.rows ⟨port, side⟩).toList ++ filled) ports
                fibers := by
          simp only [FillTarget.planned]
          rw [openSlots_cons_open (Bool.eq_false_iff.2 hopen)]
          rfl
        rw [hplanned]
        refine (Job.ends_bind fun _ _ _ => trivial).2
          ((ends_placeOne h hready hport fiber).mono ?_)
        rintro (e | _) c' line' -
        · intro hhalted _
          exact hhalted.mono (List.prefix_append_right_inj done |>.2 (List.prefix_append ..))
        · rintro ⟨hgoing, hready'⟩
          exact (ih fibers _ (pass.add target.structureId) hnone hgoing hready' hports).mono
            fun _ _ _ _ hpasses => hpasses.rest

structure Matches (r : Registry) (target : FillTarget) (leg : Leg) : Prop where
  structureId : target.structureId = leg.structureId
  ports : target.ports = leg.free
  rows : target.rows = r.listing leg.structureId

theorem Matches.planned {leg : Leg} (h : Matches r target leg) (fibers : List LabelledFiber) :
    target.planned side [] target.ports fibers =
      placing (r.slots side leg) (fibers.map (·.fiber)) := by
  simp only [FillTarget.planned, Registry.slots]
  rw [openSlots_nil, h.structureId, h.ports, h.rows]

end fillPorts

/-! ### The structures behind -/

section fillLater

variable {loses : List Exchange → Call → Option Failure} {r : Registry} {done : List Placement}
  {limits : Limits} {c : Client} {line : Server × List Exchange} {side : Side}

theorem Registry.portsOf_eq_ok {r' : Registry} {typeId : ComponentTypeId} {ports : List Port}
    (h : r.perform limits (.portsOf typeId) = .ok (ports, r')) :
    ports = ((r.componentTypes.find? typeId).map (·.ports)).getD [] := by
  obtain ⟨found, hfound, heq⟩ := map_eq_ok.1 h
  obtain ⟨componentType, htype, rfl⟩ := map_eq_ok.1 hfound
  simp only [componentType?] at htype
  split at htype
  next hfind =>
    obtain rfl := Except.ok.inj htype
    rw [hfind, ← (Prod.mk.inj heq).1]
    rfl
  next => cases htype

theorem Registry.Places.listing_of_ne {r' : Registry} {id : StructureId} (h : r.Places done r')
    (hr : r.WellFormed limits) (hother : ∀ p ∈ done, id ≠ p.structureId) :
    r'.listing id = r.listing id := by
  induction h with
  | nil => rfl
  | @snoc r₁ r' ps p row before placed ih =>
    rw [(before.wellFormed hr).listing_place_of_ne placed (hother p (by simp)),
      ih fun q hq => hother q (List.mem_append_left _ hq)]

theorem ends_fetched (hr : r.WellFormed limits) (h : Going r done line) (record : Structure)
    (hother : ∀ p ∈ done, record.id ≠ p.structureId) :
    Job.Ends (Authority.lossy loses Server.answer) (fun _ => True) (remoteTarget record side).run
      (fun
        | .ok target, _, line' =>
            Going r done line' ∧ target.inEditor = false ∧ Matches r target (r.leg side record)
        | .error _, _, line' =>
            Halted r done line' ∨ Going r done line' ∧ (r.leg side record).free = []) c line := by
  simp only [remoteTarget]
  split
  next hnone =>
    refine fun _ => .inr ⟨h, ?_⟩
    simp only [Registry.leg, Registry.portsAt, hnone]
    rfl
  next typeId htype =>
    refine (Job.ends_attempt fun _ _ _ => trivial).2 (Server.ends_call ?_ ?_)
    · exact fun e line' _ hrecord _ hsame => .inl (h.lost hrecord rfl rfl hsame)
    intro ports line₁ _ hrecord₁ _ hports
    have h₁ := h.read hrecord₁ rfl rfl (Registry.perform_read rfl hports)
    refine (Job.ends_attempt fun _ _ _ => trivial).2 (Server.ends_call ?_ ?_)
    · exact fun e line' _ hrecord _ hsame => .inl (h₁.lost hrecord rfl rfl hsame)
    intro rows line₂ _ hrecord₂ _ hrows
    have h₂ := h₁.read hrecord₂ rfl rfl (Registry.perform_read rfl hrows)
    have hports' : ports = r.portsAt record := by
      rw [Registry.portsOf_eq_ok hports, h.places.frame.componentTypes]
      simp only [Registry.portsAt, htype]
      rfl
    have hrows' : rows = r.listing record.id := by
      rw [(Registry.rowsOf_eq_ok hrows).1, h₁.places.listing_of_ne hr hother]
    exact fun _ => ⟨h₂, rfl, rfl, by rw [hports', hrows']; rfl, hrows'⟩

theorem leads_leg {later : List Structure} {target : FillTarget} {leg : Leg}
    (fibers : List LabelledFiber) (report : FillReport) (h : Going r done line)
    (hready : Ready target side c line) (hmatches : Matches r target leg) (hfree : leg.free ≠ [])
    (hlater : ∀ placed fibers report c line, (∀ p ∈ placed, p.structureId = leg.structureId) →
      Going r (done ++ placed) line → Leads loses (fillLater side later fibers report)
        (fun _ line' => Ended r (done ++ placed ++
          placing (r.route side (later.map (r.leg side))) (fibers.map (·.fiber))) line') c line) :
    Leads loses (fillCable target later side fibers report) (fun _ line' => Ended r (done ++
      placing (r.route side (leg :: later.map (r.leg side)))
        (fibers.map (·.fiber))) line') c line := by
  rw [r.route_open side _ hfree, placing_append, ← List.append_assoc]
  refine (Job.ends_bind fun _ _ _ => trivial).2
    ((ends_fillPorts fibers [] { report } rfl h hready (List.Subset.refl _)).mono
      fun pass c' line' _ hpasses => ?_)
  rw [hmatches.planned] at hpasses
  simp only [Passes] at hpasses
  split
  next e hfailure =>
    rw [hfailure] at hpasses
    exact fun _ => .inr (hpasses.mono (List.prefix_append ..))
  next hnone =>
    rw [hnone, Nat.zero_add] at hpasses
    obtain ⟨hgoing, hplaced⟩ := hpasses
    have hrest := hlater _ (fibers.drop pass.placed) pass.report c' line' (fun p hp => ?_) hgoing
    · rw [List.map_drop, hplaced] at hrest
      rw [hplaced]
      exact hrest
    · obtain ⟨port, -, heq⟩ := List.mem_map.1 (mem_of_mem_placing hp)
      exact (congrArg Prod.fst heq).symm

theorem leads_ended_fillLater (hr : r.WellFormed limits) (later : List Structure)
    (fibers : List LabelledFiber) (report : FillReport) (h : Going r done line)
    (hids : (later.map (·.id)).Nodup) (hother : ∀ p ∈ done, p.structureId ∉ later.map (·.id)) :
    Leads loses (fillLater side later fibers report) (fun _ line' => Ended r (done ++
      placing (r.route side (later.map (r.leg side))) (fibers.map (·.fiber))) line') c line := by
  induction later generalizing fibers report done c line with
  | nil => exact fun _ => .inl ((List.append_nil done).symm ▸ h)
  | cons record later ih =>
    obtain ⟨hrecord, hids⟩ := List.nodup_cons.1 hids
    have hblocked : (r.leg side record).free = [] →
        done ++ placing (r.route side ((record :: later).map (r.leg side))) (fibers.map (·.fiber)) =
          done := fun hfree => by
      rw [List.map_cons, r.route_blocked side _ hfree]
      exact List.append_nil done
    simp only [fillLater]
    split
    next hempty =>
      rw [List.isEmpty_iff.1 hempty, List.map_nil, placing_nil, List.append_nil]
      exact fun _ => .inl h
    next =>
      refine (Job.ends_bind fun _ _ _ => trivial).2
        ((ends_fetched hr h record fun p hp heq => hother p hp ?_).mono ?_)
      · rw [← heq]
        exact List.mem_cons_self
      rintro (e | target) c' line' -
      · rintro (hhalted | ⟨hgoing, hfree⟩)
        · exact fun _ => .inr (hhalted.mono (List.prefix_append ..))
        · exact fun _ => .inl ((hblocked hfree).symm ▸ hgoing)
      · rintro ⟨hgoing, heditor, hmatches⟩
        dsimp only
        split
        next hempty =>
          refine fun _ => .inl ?_
          rw [hblocked (hmatches.ports ▸ List.isEmpty_iff.1 hempty)]
          exact hgoing
        next hnonempty =>
          refine leads_leg fibers report hgoing (ready_elsewhere heditor) hmatches
            (fun hfree => hnonempty (List.isEmpty_iff.2 (hmatches.ports.trans hfree))) ?_
          intro placed fibers report c line hplaced hgoing
          refine ih fibers report hgoing hids fun p hp => ?_
          rcases List.mem_append.1 hp with hp | hp
          · exact fun hmem => hother p hp (List.mem_cons_of_mem _ hmem)
          · rw [hplaced p hp]
            exact hrecord

end fillLater

/-! ### Whole fills -/

section fills

variable {loses : List Exchange → Call → Option Failure} {r : Registry}
  {structures : Table StructureId Structure} {selected : SelectedStructure} {α : Type} {c : Client}
  {line line' : Server × List Exchange} {planned : List Placement}

theorem Ready.of_same {target : FillTarget} {side : Side} (h : Ready target side c line)
    (hsame : line'.1.registry = line.1.registry) (hsound : line'.1.Sound) :
    Ready target side c line' := by
  intro heditor
  obtain ⟨structures, selected, haligned, hrest⟩ := h heditor
  exact ⟨structures, selected, haligned.of_same hsame hsound, hrest⟩

theorem localTarget_of_aligned (h : Aligned structures (some selected) c line) (start : PortSide) :
    ∃ target, localTarget c.editor start = some target ∧ Ready target start.side c line ∧
      Matches line.1.registry target (line.1.registry.selectedLeg selected start) := by
  simp only [localTarget]
  rw [h.structureId, Option.map_some]
  refine ⟨_, rfl, fun _ => ⟨structures, selected, h, rfl, fun port hport => ?_⟩, rfl, ?_, h.rows⟩
  · simp only [Editor.ports, Occupancy.available] at hport
    rw [h.selected] at hport
    exact List.mem_of_mem_filter ((List.takeWhile_sublist _).subset hport)
  · simp only [Registry.selectedLeg, Editor.ports]
    rw [h.selected, h.rows]

theorem leads_exclusively_free {refused job : Job α} {post : α → Server × List Exchange → Prop}
    (hfree : c.slot.taken = false)
    (hjob : Leads loses job post { c with slot := { taken := true } } line) :
    Leads loses (exclusively refused job) post c line := by
  simp only [exclusively]
  refine leads_client ?_
  simp only [Slot.begin?, hfree, Bool.false_eq_true, if_false]
  exact leads_update (leads_bind hjob fun value c line hpost => leads_update fun _ => hpost)

theorem leads_finished {post : Server × List Exchange → Prop} (kind : FillKind)
    (failure : Option Failure) (report : FillReport) (h : post line) :
    Leads loses (finishFill kind failure report) (fun _ => post) c line := by
  simp only [finishFill]
  cases failure with
  | some e =>
    dsimp only
    split <;> exact fun _ => h
  | none =>
    dsimp only
    split <;> exact fun _ => h

theorem Passes.ended {pass : FillPass} {count : Nat} (h : Passes r [] planned count pass line) :
    Ended r planned line := by
  simp only [Passes, List.nil_append] at h
  split at h
  · exact .inl h.1
  · exact .inr h

theorem map_labelled (fibers : List Fiber) (name : String) :
    (fibers.map (⟨·, name⟩ : Fiber → LabelledFiber)).map (·.fiber) = fibers := by
  rw [List.map_map]
  exact List.map_id fibers

theorem going_start (s : Server) : Going s.registry [] (s, []) :=
  ⟨.nil, rfl, fun _ he => absurd he List.not_mem_nil⟩

theorem leads_ended_dropBundle {s : Server} (h : Aligned structures (some selected) c (s, []))
    (hfree : c.slot.taken = false) (start : PortSide) (bundle : Bundle) :
    Leads loses (dropBundle start bundle) (fun _ line' => Ended s.registry
      ((Freight.bundle bundle).plan s.registry c.settings selected start) line') c (s, []) := by
  have h : Aligned structures (some selected) { c with slot := { taken := true } } (s, []) :=
    h.of_editor rfl rfl
  refine leads_exclusively_free hfree (leads_client ?_)
  obtain ⟨target, htarget, hready, hmatches⟩ := localTarget_of_aligned h start
  dsimp only at htarget hmatches ⊢
  rw [htarget]
  simp only [Freight.plan, Freight.beyond, Freight.fibers, List.map_nil]
  rw [← Freight.mergeSort_absolute]
  split
  next hempty =>
    rw [s.registry.route_blocked _ _ (hmatches.ports ▸ List.isEmpty_iff.1 hempty)]
    exact fun _ => .inl (going_start s)
  next hnonempty =>
    have hopen : (s.registry.selectedLeg selected start).free ≠ [] := fun hfree =>
      hnonempty (List.isEmpty_iff.2 (hmatches.ports.trans hfree))
    rw [s.registry.route_open _ _ hopen]
    split
    next hempty =>
      rw [List.isEmpty_iff.1 hempty]
      refine fun _ => .inl ?_
      have hnone : placing (s.registry.slots start.side (s.registry.selectedLeg selected start) ++
        s.registry.route start.side []) (Fiber.sortByAbsolute []) = [] := placing_nil _
      rw [hnone]
      exact going_start s
    next =>
      refine (Job.ends_bind fun _ _ _ => trivial).2
        ((ends_fillPorts _ [] _ rfl (going_start s) hready (List.Subset.refl _)).mono
          fun pass c' line' _ hpasses => leads_finished _ _ _ ?_)
      rw [hmatches.planned, map_labelled] at hpasses
      rw [Registry.route, List.takeWhile_nil, List.flatMap_nil, List.append_nil]
      exact hpasses.ended

theorem ends_fetchedFibers {s : Server} (hsound : s.Sound) (cable : Cable)
    (records : List Structure) :
    Job.Ends (Authority.lossy loses Server.answer) (fun _ => True) (cableFibers cable).run (fun
      | .ok fibers, c', line' => c' = c ∧ Going s.registry [] line' ∧
          line'.1.registry = s.registry ∧ line'.1.Sound ∧
            fibers = (Freight.cable cable records).fibers s.registry
      | .error _, _, line' => Halted s.registry [] line') c (s, []) := by
  simp only [cableFibers, Freight.fibers]
  rw [← Freight.mergeSort_bundle]
  split
  · refine (Job.ends_attempt fun _ _ _ => trivial).2 (Server.ends_call ?_ ?_)
    · exact fun e line' _ hrecord _ hsame => (going_start s).lost hrecord rfl rfl hsame
    · intro fibers line' _ hrecord hlimits hperform
      have hsame := Registry.perform_read rfl hperform
      refine fun _ => ⟨rfl, (going_start s).read hrecord rfl rfl hsame, hsame,
        hsound.of_same hlimits hsame, ?_⟩
      obtain ⟨listed, hlisted, heq⟩ := map_eq_ok.1 hperform
      obtain rfl := (Prod.mk.inj heq).1
      exact congrArg Fiber.sortByBundle (by rw [hlisted]; rfl)
  · exact fun _ => ⟨rfl, going_start s, rfl, hsound, rfl⟩

theorem leads_ended_dropCable {s : Server} (h : Aligned structures (some selected) c (s, []))
    (hfree : c.slot.taken = false) (start : PortSide) (cable : Cable) {records : List Structure}
    (hids : (records.map (·.id)).Nodup) :
    Leads loses (dropCable start cable records) (fun _ line' => Ended s.registry
      ((Freight.cable cable records).plan s.registry c.settings selected start) line')
      c (s, []) := by
  have h : Aligned structures (some selected) { c with slot := { taken := true } } (s, []) :=
    h.of_editor rfl rfl
  refine leads_exclusively_free hfree (leads_client ?_)
  obtain ⟨target, htarget, hready, hmatches⟩ := localTarget_of_aligned h start
  have hselected := h.selected
  dsimp only at htarget hselected hmatches ⊢
  rw [hselected, htarget]
  dsimp only
  simp only [Freight.plan]
  split
  next hempty =>
    rw [s.registry.route_blocked _ _ (hmatches.ports ▸ List.isEmpty_iff.1 hempty)]
    exact fun _ => .inl (going_start s)
  next hnonempty =>
    have hopen : (s.registry.selectedLeg selected start).free ≠ [] := fun hfree =>
      hnonempty (List.isEmpty_iff.2 (hmatches.ports.trans hfree))
    refine (Job.ends_bind fun _ _ _ => trivial).2
      ((ends_fetchedFibers h.inStep.sound cable records).mono ?_)
    rintro (e | fibers) c' line' -
    · exact fun hhalted => leads_finished _ _ _ (.inr (hhalted.mono List.nil_prefix))
    rintro ⟨rfl, hgoing, hsame, hsound, rfl⟩
    dsimp only
    split
    next hempty =>
      refine fun _ => .inl ?_
      rw [List.isEmpty_iff.1 hempty, placing_nil]
      exact hgoing
    next =>
      obtain ⟨hselected, hlater⟩ := List.nodup_cons.1
        ((Freight.cable cable records).nodup_beyond c.settings selected.record hids)
      rw [← Freight.laterStructures_eq] at hselected hlater ⊢
      refine leads_bind (leads_leg _ _ hgoing (hready.of_same hsame hsound) hmatches hopen ?_)
        fun result c' line' hended => leads_finished _ _ _ ?_
      · intro placed fibers report c line hplaced hgoing
        refine leads_ended_fillLater h.wellFormed _ _ _ hgoing hlater fun p hp => ?_
        rw [hplaced p hp]
        exact hselected
      · rw [map_labelled] at hended
        exact hended

end fills

/-! ### Slots that are written apart -/

section apart

variable {r : Registry} {limits : Limits} {side : Side}

theorem Occupancy.nodup_available (ports : List Port) (rows : List Splice) (side : Side)
    (start : PortNumber) : (available ports rows side start).Nodup := by
  have hsorted := pairwise_ascending ((ports.filter (·.direction = side.direction)).map (·.number))
  have hnodup : (sidePorts ports side).Nodup := hsorted.imp fun hlt => UInt32.ne_of_lt hlt
  exact hnodup.sublist ((List.takeWhile_sublist _).trans List.filter_sublist)

theorem nodup_leg (r : Registry) (side : Side) (record : Structure) :
    (r.leg side record).free.Nodup := by
  simp only [Registry.leg]
  split
  · exact Occupancy.nodup_available ..
  · exact .nil

theorem pairwise_slots (hr : r.WellFormed limits) {leg : Leg} (hfree : leg.free.Nodup) :
    (r.slots side leg).Pairwise (Apart r.groupOn) := by
  refine List.pairwise_map.2 ((pairwise_leaders hfree).imp ?_)
  rintro p q ⟨hne, hgroups⟩ -
  refine ⟨fun heq => hne (congrArg PortSide.port heq), fun key hkey => ?_⟩
  simp only [Registry.groupOn] at hkey ⊢
  rw [← Registry.groupOf_listing hr.rowsAt] at hkey ⊢
  exact hgroups key hkey

theorem pairwise_route (hr : r.WellFormed limits) {legs : List Leg}
    (hids : (legs.map (·.structureId)).Nodup) (hfree : ∀ leg ∈ legs, leg.free.Nodup) :
    (r.route side legs).Pairwise (Apart r.groupOn) := by
  have htaken := List.takeWhile_sublist (l := legs) fun leg => !leg.free.isEmpty
  refine List.pairwise_flatMap.2
    ⟨fun leg hleg => pairwise_slots hr (hfree leg (htaken.subset hleg)), ?_⟩
  refine ((List.pairwise_map.1 hids).sublist htaken).imp fun hne slot hslot other hother heq => ?_
  obtain ⟨p, -, rfl⟩ := List.mem_map.1 hslot
  obtain ⟨q, -, rfl⟩ := List.mem_map.1 hother
  exact absurd heq hne

theorem Freight.pairwise_plan (hr : r.WellFormed limits) (freight : Freight)
    (hids : (freight.structures.map (·.id)).Nodup) (settings : ClientSettings)
    (selected : SelectedStructure) (start : PortSide) :
    (freight.plan r settings selected start).Pairwise fun p q =>
      ∀ id spot, r.Reaches p id spot → ¬r.Reaches q id spot := by
  have hlegs : ((r.selectedLeg selected start :: (freight.beyond settings selected.record).map
      (r.leg start.side)).map (·.structureId)).Nodup := by
    rw [List.map_cons, List.map_map]
    exact freight.nodup_beyond settings selected.record hids
  have hfree : ∀ leg ∈ r.selectedLeg selected start :: (freight.beyond settings selected.record).map
      (r.leg start.side), leg.free.Nodup := fun leg hleg => by
    rcases List.mem_cons.1 hleg with rfl | hleg
    · exact Occupancy.nodup_available ..
    · obtain ⟨record, -, rfl⟩ := List.mem_map.1 hleg
      exact nodup_leg r start.side record
  have htaken := (pairwise_route hr hlegs hfree).sublist
    (List.take_sublist (freight.fibers r).length (r.route start.side _))
  rw [← slots_placing] at htaken
  refine (List.pairwise_map.1 htaken).imp fun hapart id spot => ?_
  exact hr.not_reaches hapart

end apart

/-- What a fill has done when it is over, with a plan made at its start. -/
structure Follows (r : Registry) (plan : List Placement)
    (line : Server × List Exchange) : Prop where
  sent : placementsOf line.2 <+: plan
  stopped : ∀ e ∈ line.2.dropLast, e.succeeded = true
  done : (∀ e ∈ line.2, e.succeeded = true) → placementsOf line.2 = plan
  shown : ∀ p ∈ acceptedOf line.2, ∀ id spot, r.Reaches p id spot → ∃ shown : Termination,
    shown.fiberId = p.fiber.fiberId ∧
      line.1.registry.endpoint id spot = { r.endpoint id spot with fiber := some shown }
  kept : ∀ id spot, (∀ p ∈ acceptedOf line.2, ¬r.Reaches p id spot) →
    line.1.registry.endpoint id spot = r.endpoint id spot

theorem Ended.follows {r : Registry} {limits : Limits} {plan : List Placement}
    {line : Server × List Exchange} (h : Ended r plan line) (hr : r.WellFormed limits)
    (hapart : plan.Pairwise fun p q => ∀ id spot, r.Reaches p id spot → ¬r.Reaches q id spot) :
    Follows r plan line := by
  have hplaces : r.Places (acceptedOf line.2) line.1.registry := by
    rcases h with h | h
    · rw [acceptedOf_eq h.succeeded, h.sent]
      exact h.places
    · exact h.places
  have hsent : placementsOf line.2 <+: plan := h.elim (fun h => h.sent ▸ List.prefix_rfl) (·.sent)
  have hapart := hapart.sublist ((acceptedOf_sublist line.2).trans hsent.sublist)
  refine ⟨hsent, ?_, ?_, fun p hp id spot => hplaces.endpoint_of_reached hr hapart hp,
    fun id spot => hplaces.endpoint_of_unreached hr⟩
  · rcases h with h | h
    · exact fun e he => h.succeeded e (List.mem_of_mem_dropLast he)
    · exact h.succeeded
  · intro hall
    rcases h with h | ⟨-, -, -, e, he, hfailed⟩
    · exact h.sent
    · exact absurd (hall e he) (by simp [hfailed])

/-- A fill places its fibers, in their order, one by one on the slots of its plan, as far as both go
and until a call fails; each of them is then on its slot and on the ports merged with that, and
nothing else has changed. -/
theorem fill_follows_plan (loses : List Exchange → Call → Option Failure) (c : Client) (s : Server)
    (hstep : InStep c s) {selected : SelectedStructure}
    (hselected : c.editor.selected = some selected) (hfree : c.slot.taken = false)
    (freight : Freight) (hids : (freight.structures.map (·.id)).Nodup) (start : PortSide) :
    Follows s.registry (freight.plan s.registry c.settings selected start)
      ((freight.operation start).job.run (Authority.lossy loses Server.answer) c (s, [])).2.2 := by
  have haligned : Aligned s.registry.structures (some selected) c (s, []) :=
    ⟨hstep, rfl, hselected⟩
  have hr := haligned.wellFormed
  have hapart := freight.pairwise_plan hr hids c.settings selected start
  cases freight with
  | bundle bundle =>
    rw [Freight.operation, Operation.job, Job.run_map]
    exact (leads_ended_dropBundle haligned hfree start bundle trivial).follows hr hapart
  | cable cable records =>
    rw [Freight.operation, Operation.job, Job.run_map]
    exact (leads_ended_dropCable haligned hfree start cable hids trivial).follows hr hapart

namespace Session

def secondTray : Structure :=
  { Server.smallTray with id := ⟨⟨4⟩⟩, name := "second tray", slotStart := 2, slotEnd := 2 }

def spilling : Session :=
  (ofPlan {} (.numbered 0 0) {} { Server.smallPlan with
      structures := [Server.smallTray, secondTray]
      cables := [{ id := ⟨⟨3⟩⟩, name := "cable", bundles := [{ number := 1, fiberCount := 6 }] }] }
    (.numbered 0 0)).takeAll
    [{ operation := .select secondTray }, { operation := .toggleMergeMode },
      { operation := .togglePort ⟨1, .a⟩ }, { operation := .togglePort ⟨2, .a⟩ },
      { operation := .mergeSelected }, { operation := .select Server.smallTray }]

theorem inStep_spilling : InStep spilling.client spilling.server :=
  inStep_session _ _ _ _ _ _ (by decide +kernel) (by decide +kernel) (by decide +kernel)

theorem follows_plan_spilling :
    let freight : Freight := .cable ⟨⟨⟨3⟩⟩, "cable", []⟩ [secondTray, Server.smallTray]
    let line := ((freight.operation ⟨1, .a⟩).job.run
      (Authority.lossy (fun _ _ => none) Server.answer) spilling.client (spilling.server, [])).2.2
    (acceptedOf line.2).map (fun p => (p.structureId, p.spot.port)) =
        [(Server.smallTray.id, 1), (Server.smallTray.id, 2), (Server.smallTray.id, 3),
          (secondTray.id, 1), (secondTray.id, 3)] ∧
      line.1.registry.Carries secondTray.id ⟨2, .a⟩ ⟨⟨3⟩⟩ ∧
      Follows spilling.server.registry (freight.plan spilling.server.registry
        spilling.client.settings ⟨Server.smallTray, spilling.client.editor.ports⟩
          ⟨1, .a⟩) line := by
  intro freight line
  have hselected : spilling.client.editor.selected =
      some ⟨Server.smallTray, spilling.client.editor.ports⟩ := by decide +kernel
  have hfollows := fill_follows_plan (fun _ _ => none) spilling.client spilling.server
    inStep_spilling hselected (by decide +kernel) freight (by decide +kernel) ⟨1, .a⟩
  have hspots : (acceptedOf line.2).map (fun p => (p.structureId, p.spot.port)) =
      [(Server.smallTray.id, 1), (Server.smallTray.id, 2), (Server.smallTray.id, 3),
        (secondTray.id, 1), (secondTray.id, 3)] := by decide +kernel
  have hcarries : line.1.registry.Carries secondTray.id ⟨2, .a⟩ ⟨⟨3⟩⟩ := by decide +kernel
  exact ⟨hspots, hcarries, hfollows⟩

end Session
end CrossConnect
