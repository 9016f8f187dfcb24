import CrossConnect.Proofs.Client.Overlap
import CrossConnect.Proofs.Client.Report
import CrossConnect.Proofs.Registry.Placing

/-!
Moving a fiber: it is put on the target before it is taken off the source, so that it is on one of
the two in every outcome. Only within one merge group, where both are written as one, this goes
wrong.
-/
namespace CrossConnect

open Client

section singlePort

variable {loses : List Exchange → Call → Option Failure}
  {structures : Table StructureId Structure} {selected : SelectedStructure}
  {c : Client} {line : Server × List Exchange}

def Confirms (structures : Table StructureId Structure) (selected : SelectedStructure)
    (write : Call) (line : Server × List Exchange) (answer : Except Failure Unit) (c : Client)
    (line' : Server × List Exchange) : Prop :=
  Written write line answer.isOk line' ∧
    (answer.isOk = true → Aligned structures (some selected) c line')

def Settles (selected : SelectedStructure) (write : Call) (line : Server × List Exchange)
    (edited : Client) (answer : Except Failure Settlement) (c : Client)
    (line' : Server × List Exchange) : Prop :=
  c = edited ∧ Written write line answer.isOk line' ∧
    ∀ settlement, answer = .ok settlement → line'.1.Sound ∧
      line'.1.registry.structures = line.1.registry.structures ∧
      (edited.apply (settlement.edit selected.record.id)).editor.rows =
        line'.1.registry.listing selected.record.id

theorem ends_remote {edited : Client} {write : Call}
    {settlement : write.Answer → Settlement} {merged : Bool}
    (hedited : edited.editor.structureId = some selected.record.id)
    (hsound : ∀ {a r}, line.1.registry.perform line.1.limits write = .ok (a, r) →
      r.Sound line.1.limits)
    (hsettled : merged = false → ∀ {a r}, line.1.registry.perform line.1.limits write = .ok (a, r) →
      (edited.apply ((settlement a).edit selected.record.id)).editor.rows =
        r.listing selected.record.id) :
    Job.Ends (Authority.lossy loses Server.answer) (fun _ => True)
      (Attempt.call write >>= fun a => settleMerged selected.record.id merged (settlement a)).run
      (Settles selected write line edited) edited line := by
  refine (Job.ends_attempt fun _ _ _ => trivial).2 (Server.ends_call ?_ ?_)
  · intro e line' _ hrecord _ hsame
    exact ⟨rfl, .refused e hrecord hsame, nofun⟩
  intro a line' _ hrecord hlimits hperform
  have hsound' : line'.1.Sound := by
    simp only [Server.Sound]
    rw [hlimits]
    exact hsound hperform
  have hstructures := (Registry.frame_perform hperform).structures
  cases merged with
  | false =>
    refine fun _ => ⟨rfl, .confirmed a hrecord hperform, fun _ heq => ?_⟩
    obtain rfl := Except.ok.inj heq
    exact ⟨hsound', hstructures, hsettled rfl hperform⟩
  | true =>
    simp only [settleMerged, if_true]
    rw [map_eq_pure_bind]
    refine (Job.ends_attempt fun _ _ _ => trivial).2 (Server.ends_call ?_ ?_)
    · intro e line'' _ hrecord' _ hsame
      refine ⟨rfl, .lost a selected.record.id e ?_ ?_, nofun⟩
      · rw [hrecord', hrecord]
      · rw [hperform, hsame]
    · intro rows line'' _ hrecord' hlimits' hlisted _
      obtain ⟨rfl, hsame⟩ := Registry.rowsOf_eq_ok hlisted
      refine ⟨rfl, .reloaded a selected.record.id
        (line'.1.registry.listing selected.record.id) ?_ ?_, fun _ heq => ?_⟩
      · rw [hrecord', hrecord]
      · rw [hperform, hsame]
      · obtain rfl := Except.ok.inj heq
        refine ⟨hsound'.of_same hlimits' hsame, by rw [hsame, hstructures], ?_⟩
        rw [hsame]
        exact Client.rows_replaceRows hedited
          (Registry.ascends_listing hsound'.wellFormed.rowsAt selected.record.id)

theorem ends_singlePort (h : Aligned structures (some selected) c line) {edit : Edit} {write : Call}
    {remote : Attempt Settlement} (hscope : edit.scope = some selected.record.id)
    (hremote : Job.Ends (Authority.lossy loses Server.answer) (fun _ => True) remote.run
      (Settles selected write line (c.apply edit)) (c.apply edit) line) :
    Job.Ends (Authority.lossy loses Server.answer) (fun _ => True)
      (optimistically selected.record.id edit remote).run
      (Confirms structures selected write line) c line := by
  simp only [optimistically]
  rw [ExceptT.run_mk, Job.ends_bind_client, Job.ends_bind_apply, Job.ends_bind fun _ _ _ => trivial]
  refine hremote.mono ?_
  rintro (e | settlement) c' line' - ⟨rfl, hwritten, hsettled⟩
  · exact fun _ => ⟨hwritten, by simp [Except.isOk, Except.toBool]⟩
  · obtain ⟨hsound, hstructures, hrows⟩ := hsettled settlement rfl
    refine fun _ => ⟨hwritten, fun _ => ⟨⟨hsound, ?_⟩, hstructures.trans h.structures, ?_⟩⟩
    · rw [Client.structureId_apply (settlement.scope_edit _), Client.structureId_apply hscope,
        h.structureId]
      exact hrows
    · rw [Client.selected_apply (settlement.scope_edit _), Client.selected_apply hscope, h.selected]

theorem ends_checked {spot : PortSide} {write : Call} {next : Bool → Attempt Unit}
    (hnext : Job.Ends (Authority.lossy loses Server.answer) (fun _ => True)
      (next (Occupancy.groupOf c.editor.rows spot).isSome).run
      (Confirms structures selected write line) c line) :
    Job.Ends (Authority.lossy loses Server.answer) (fun _ => True)
      (checkMerged spot >>= next).run (Confirms structures selected write line) c line := by
  refine (Job.ends_attempt fun _ _ _ => trivial).2 ?_
  rw [checkMerged, ExceptT.run_mk, Job.ends_bind_client, Job.ends_pure]
  intro _
  cases requirePort c.editor spot with
  | error e => exact ⟨.unsent, by simp [Except.isOk, Except.toBool]⟩
  | ok _ => exact hnext

theorem ends_assign (h : Aligned structures (some selected) c line) (spot : PortSide)
    (fiber : LabelledFiber) :
    Job.Ends (Authority.lossy loses Server.answer) (fun _ => True)
      (assign selected.record.id spot fiber).run
      (Confirms structures selected (.place ⟨selected.record.id, spot, fiber.fiber.ref⟩) line)
      c line := by
  refine ends_checked (ends_singlePort h rfl (ends_remote (h.edited _ rfl) ?_ ?_))
  · exact fun hplace => h.inStep.sound.place hplace
  · exact fun hmerged _ _ hplace => h.confirm (by simpa using hmerged) _ hplace

theorem ends_vacate (h : Aligned structures (some selected) c line) (spot : PortSide) :
    Job.Ends (Authority.lossy loses Server.answer) (fun _ => True)
      (vacate selected.record.id spot).run
      (Confirms structures selected (.clear selected.record.id spot) line) c line := by
  refine ends_checked (ends_singlePort h rfl (ends_remote (h.edited _ rfl) ?_ ?_))
  · exact fun hclear => h.inStep.sound.clear hclear
  · exact fun hmerged _ _ hclear => h.prune (by simpa using hmerged) hclear

end singlePort

/-! ### Moves -/

def Editor.Carries (editor : Editor) (spot : PortSide) (fiber : FiberId) : Prop :=
  ((editor.row spot.port).bind (·.fiber spot.side)).map (·.fiberId) = some fiber

instance (editor : Editor) (spot : PortSide) (fiber : FiberId) :
    Decidable (editor.Carries spot fiber) :=
  inferInstanceAs (Decidable (_ = _))

theorem Aligned.carries_iff {structures : Table StructureId Structure}
    {selected : SelectedStructure} {c : Client} {line : Server × List Exchange}
    (h : Aligned structures (some selected) c line) (spot : PortSide) (fiber : FiberId) :
    c.editor.Carries spot fiber ↔ line.1.registry.Carries selected.record.id spot fiber := by
  have hfiber : (c.editor.row spot.port).bind (·.fiber spot.side) =
      (line.1.registry.endpoint selected.record.id spot).fiber := by
    simp only [Editor.row, Registry.endpoint]
    rw [h.row]
    cases line.1.registry.rows.find? (selected.record.id, spot.port) <;> rfl
  simp only [Editor.Carries, Registry.Carries]
  rw [hfiber]

/-- What a move that is over has come to: whether it succeeded or not, the fiber is on the target or
has stayed on the source. -/
structure Moves (id : StructureId) (source target : PortSide) (fiber : FiberId) (moved : Bool)
    (c : Client) (line : Server × List Exchange) : Prop where
  done : moved = true → line.1.registry.Carries id target fiber ∧ c.editor.Carries target fiber
  kept : line.1.registry.Carries id source fiber ∨ line.1.registry.Carries id target fiber

section moves

variable {loses : List Exchange → Call → Option Failure}
  {structures : Table StructureId Structure} {selected : SelectedStructure}
  {c : Client} {line line' : Server × List Exchange} {source target : PortSide}
    {fiber : LabelledFiber}

theorem Written.kept_of_place (hsound : line.1.Sound)
    (h : Written (.place ⟨selected.record.id, target, fiber.fiber.ref⟩) line false line')
    (hsource : line.1.registry.Carries selected.record.id source fiber.fiber.id) :
    line'.1.registry.Carries selected.record.id source fiber.fiber.id ∨
      line'.1.registry.Carries selected.record.id target fiber.fiber.id := by
  cases h with
  | unsent => exact .inl hsource
  | refused e record same => exact .inl (same ▸ hsource)
  | lost a id e record performed =>
    exact .inr (hsound.wellFormed.carries_place performed rfl (Registry.mem_fanOut_self ..))

theorem Written.carries_of_place (hsound : line.1.Sound)
    (h : Written (.place ⟨selected.record.id, target, fiber.fiber.ref⟩) line true line') :
    line'.1.registry.Carries selected.record.id target fiber.fiber.id := by
  cases h with
  | confirmed a record performed =>
    exact hsound.wellFormed.carries_place performed rfl (Registry.mem_fanOut_self ..)
  | reloaded a id rows record performed =>
    exact hsound.wellFormed.carries_place performed rfl (Registry.mem_fanOut_self ..)

theorem Written.carries_of_clear (hsound : line.1.Sound) {ok : Bool}
    (h : Written (.clear selected.record.id source) line ok line')
    (hapart : ¬(target.side = source.side ∧
      target.port ∈ line.1.registry.fanOut selected.record.id source))
    (htarget : line.1.registry.Carries selected.record.id target fiber.fiber.id) :
    line'.1.registry.Carries selected.record.id target fiber.fiber.id := by
  have hcleared :
      ∀ {a r}, line.1.registry.perform line.1.limits (.clear selected.record.id source) =
      .ok (a, r) → r.Carries selected.record.id target fiber.fiber.id := by
    intro a r hclear
    simp only [Registry.Carries]
    rw [hsound.wellFormed.endpoint_clear_of_not hclear fun hreach => hapart hreach.2]
    exact htarget
  cases h with
  | unsent => exact htarget
  | refused e record same => exact same ▸ htarget
  | lost a id e record performed => exact hcleared performed
  | confirmed a record performed => exact hcleared performed
  | reloaded a id rows record performed => exact hcleared performed

theorem Written.group_place (hsound : line.1.Sound) {p : Placement} {ok : Bool}
    (h : Written (.place p) line ok line') (id : StructureId) (spot : PortSide) :
    (line'.1.registry.endpoint id spot).group = (line.1.registry.endpoint id spot).group := by
  cases h with
  | unsent => rfl
  | refused e record same => rw [same]
  | lost a id e record performed => exact hsound.wellFormed.group_place performed
  | confirmed a record performed => exact hsound.wellFormed.group_place performed
  | reloaded a id rows record performed => exact hsound.wellFormed.group_place performed

theorem ends_moveFiber (h : Aligned structures (some selected) c line)
    (hsource : line.1.registry.Carries selected.record.id source fiber.fiber.id)
    (hapart : ∀ key, (line.1.registry.endpoint selected.record.id source).group = some key →
      (line.1.registry.endpoint selected.record.id target).group ≠ some key)
    (hne : source ≠ target) :
    Job.Ends (Authority.lossy loses Server.answer) (fun _ => True) (moveFiber source target fiber)
      (Moves selected.record.id source target fiber.fiber.id) c line := by
  simp only [moveFiber, if_neg hne]
  rw [Job.ends_bind_client, h.structureId]
  refine (Job.ends_bind fun _ _ _ => trivial).2 ((ends_assign h target fiber).mono ?_)
  rintro (e | _) c₁ line₁ - ⟨hplaced, haligned⟩
  · exact fun _ => ⟨by simp, hplaced.kept_of_place h.inStep.sound hsource⟩
  have haligned := haligned rfl
  have htarget := hplaced.carries_of_place h.inStep.sound
  have hapart₁ : ¬(target.side = source.side ∧
      target.port ∈ line₁.1.registry.fanOut selected.record.id source) := by
    rintro ⟨hside, hport⟩
    rcases haligned.wellFormed.eq_or_group_of_mem_fanOut hside hport with heq | ⟨key, hkey, hkey'⟩
    · exact hne heq.symm
    · rw [hplaced.group_place h.inStep.sound] at hkey hkey'
      exact hapart key hkey hkey'
  refine (Job.ends_bind fun _ _ _ => trivial).2 ((ends_vacate haligned source).mono ?_)
  rintro (e | _) c₂ line₂ - ⟨hcleared, haligned₂⟩
  · exact fun _ => ⟨by simp, .inr (hcleared.carries_of_clear haligned.inStep.sound hapart₁ htarget)⟩
  · have htarget₂ := hcleared.carries_of_clear haligned.inStep.sound hapart₁ htarget
    exact fun _ => ⟨fun _ => ⟨htarget₂, ((haligned₂ rfl).carries_iff _ _).2 htarget₂⟩,
      .inr htarget₂⟩

end moves

/-- A move loses no fiber, whichever calls fail, unless source and target are in one merge group. -/
theorem fiber_kept_by_move (loses : List Exchange → Call → Option Failure) (c : Client) (s : Server)
    (hstep : InStep c s) {id : StructureId} (hid : c.editor.structureId = some id)
    {source target : PortSide} (fiber : LabelledFiber) (hne : source ≠ target)
    (hsource : s.registry.Carries id source fiber.fiber.id)
    (hapart : ∀ key, (s.registry.endpoint id source).group = some key →
      (s.registry.endpoint id target).group ≠ some key) :
    let (moved, c', line) :=
      (moveFiber source target fiber).run (Authority.lossy loses Server.answer) c (s, [])
    Moves id source target fiber.fiber.id moved c' line := by
  obtain ⟨selected, hselected, rfl⟩ := Option.map_eq_some_iff.1 hid
  have haligned : Aligned s.registry.structures (some selected) c (s, []) :=
    ⟨hstep, rfl, hselected⟩
  exact ends_moveFiber haligned hsource hapart hne trivial

def Session.mergedFiber : Session :=
  (ofPlan {} (.numbered 0 0) {} Server.smallPlan (.numbered 0 0)).takeAll
    [{ operation := .select Server.smallTray }, { operation := .toggleMergeMode },
      { operation := .togglePort ⟨1, .a⟩ }, { operation := .togglePort ⟨2, .a⟩ },
      { operation := .mergeSelected },
      { operation := .dropFiber ⟨1, .a⟩ ⟨Server.smallFiber 1, "cable"⟩ }]

theorem Session.inStep_mergedFiber : InStep mergedFiber.client mergedFiber.server :=
  inStep_session _ _ _ _ _ _ (by decide +kernel) (by decide +kernel) (by decide +kernel)

/-- A move within a merge group reports success and takes the fiber off the whole group. -/
theorem fiber_lost_within_group :
    let start := Session.mergedFiber
    let id := Server.smallTray.id
    let fiber := Server.smallFiber 1
    let (moved, _, line) := (moveFiber ⟨1, .a⟩ ⟨2, .a⟩ ⟨fiber, "cable"⟩).run
      (Authority.lossy (fun _ _ => none) Server.answer) start.client (start.server, [])
    InStep start.client start.server ∧ start.client.editor.structureId = some id ∧
      start.server.registry.Carries id ⟨1, .a⟩ fiber.id ∧ moved = true ∧
      ∀ spot ∈ [(⟨1, .a⟩ : PortSide), ⟨2, .a⟩], ¬line.1.registry.Carries id spot fiber.id :=
  ⟨Session.inStep_mergedFiber, by decide +kernel⟩

theorem fiber_kept_by_lost_clearing :
    let start := Session.mergedFiber
    let id := Server.smallTray.id
    let fiber := Server.smallFiber 1
    let (moved, c, line) := (moveFiber ⟨1, .a⟩ ⟨3, .a⟩ ⟨fiber, "cable"⟩).run
      (Authority.lossy
        (fun _ call => if call.name = "clear_fiber_splice" then some .noFibers else none)
        Server.answer) start.client (start.server, [])
    moved = false ∧ line.1.registry.Carries id ⟨1, .a⟩ fiber.id ∧
      Moves id ⟨1, .a⟩ ⟨3, .a⟩ fiber.id moved c line :=
  ⟨by decide +kernel, by decide +kernel, fiber_kept_by_move _ Session.mergedFiber.client
    Session.mergedFiber.server Session.inStep_mergedFiber (by decide +kernel)
    ⟨Server.smallFiber 1, "cable"⟩ (by decide) (by decide +kernel) (by decide +kernel)⟩

end CrossConnect
