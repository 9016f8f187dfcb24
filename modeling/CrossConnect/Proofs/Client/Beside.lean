import CrossConnect.Proofs.Client.FillRun
import CrossConnect.Proofs.Client.Terms
import CrossConnect.Proofs.Registry.Growing

/-!
Drops, merges and fills among others of the same client. What the others do between two calls of a
fill it cannot know; it keeps its fibers apart by the merge groups that it saw when it began.
-/
namespace CrossConnect

open Client Occupancy

/-! ### What is seen -/

def ShowsGroups (r₀ : Registry) (id : StructureId) (rows : List Splice) : Prop :=
  ∀ {spot : PortSide} {key : MergeGroupId}, (r₀.endpoint id spot).group = some key →
    groupOf rows spot = some key

/-- The selection has stayed, and the editor has lost no merge group. -/
structure Views (r₀ : Registry) (selected : SelectedStructure) (c : Client) : Prop where
  stays : c.editor.selected = some selected
  ascends : Ascends c.editor.rows
  groups : ShowsGroups r₀ selected.record.id c.editor.rows

/-- The merge groups as a fill sees them: those of the rows that the editor showed when it began,
and on other structures those that there are. -/
def Registry.seen (r₀ : Registry) (selected : SelectedStructure) (rows : List Splice)
    (slot : FiberSlot) : Option MergeGroupId :=
  if slot.1 = selected.record.id then groupOf rows slot.2 else r₀.groupOn slot

theorem seen_selected (r₀ : Registry) (selected : SelectedStructure) (rows : List Splice)
    (spot : PortSide) : r₀.seen selected rows (selected.record.id, spot) = groupOf rows spot :=
  if_pos rfl

theorem seen_of_group {r₀ : Registry} {selected : SelectedStructure} {rows : List Splice}
    {id : StructureId} {spot : PortSide} {key : MergeGroupId}
    (hshows : ShowsGroups r₀ selected.record.id rows)
    (hkey : (r₀.endpoint id spot).group = some key) :
    r₀.seen selected rows (id, spot) = some key := by
  simp only [Registry.seen]
  split
  next hid => exact hshows (hid ▸ hkey)
  next => exact hkey

structure Listed (r₀ : Registry) (selected : SelectedStructure) (past : List Exchange)
    (id : StructureId) (rows : List Splice) : Prop where
  ascends : Ascends rows
  groups : ShowsGroups r₀ id rows
  exactly : id ≠ selected.record.id → ∀ spot, groupOf rows spot = r₀.groupOn (id, spot)
  occupied : ∀ q ∈ acceptedOf past, ∀ spot, r₀.Reaches q id spot → isOccupied rows spot = true

def Heard (r₀ : Registry) (selected : SelectedStructure) (past : List Exchange) : Exchange → Prop
  | ⟨.rowsOf id, .ok rows⟩ => Listed r₀ selected past id rows
  | ⟨.fibersOf id, .ok fibers⟩ => r₀.fibersOf id = .ok fibers
  | ⟨.place p, .ok row⟩ => ∀ side key,
      (r₀.endpoint p.structureId ⟨row.port, side⟩).group = some key → row.group side = some key
  | _ => True

def Asked (group : FiberSlot → Option MergeGroupId) (home : StructureId) (past : List Exchange) :
    Call → Prop
  | .place p => ∀ q ∈ acceptedOf past, Apart group q.slot p.slot
  | .merge id _ _ => id = home
  | .clear _ _ | .unmerge _ _ | .upload _ _ _ => False
  | .portsOf _ | .rowsOf _ | .fibersOf _ => True

def Terms.beside (r₀ : Registry) (selected : SelectedStructure) (rows : List Splice) : Terms where
  finds := Views r₀ selected
  hears := Heard r₀ selected
  leaves _ := Views r₀ selected
  asks := Asked (r₀.seen selected rows) selected.record.id

/-! ### Edits -/

section views

variable {r₀ : Registry} {selected : SelectedStructure} {c c' : Client} {rows : List Splice}

theorem Views.structureId (h : Views r₀ selected c) :
    c.editor.structureId = some selected.record.id := by
  simp only [Editor.structureId]
  rw [h.stays]
  rfl

theorem Views.of_editor (h : Views r₀ selected c) (hrows : c'.editor.rows = c.editor.rows)
    (hselected : c'.editor.selected = c.editor.selected) : Views r₀ selected c' :=
  ⟨hselected.trans h.stays, hrows ▸ h.ascends, hrows ▸ h.groups⟩

theorem Views.replaceRows (h : Views r₀ selected c) (hascends : Ascends rows)
    (hgroups : ShowsGroups r₀ selected.record.id rows) :
    Views r₀ selected (c.apply (.replaceRows selected.record.id rows)) := by
  have hrows := rows_replaceRows h.structureId hascends
  exact ⟨(selected_apply rfl).trans h.stays, hrows.symm ▸ hascends, hrows.symm ▸ hgroups⟩

theorem Views.place (h : Views r₀ selected c) (spot : PortSide) (fiber : Termination) :
    Views r₀ selected (c.apply (.place selected.record.id spot fiber)) := by
  refine ⟨(selected_apply rfl).trans h.stays, ascends_place spot fiber h.structureId h.ascends,
    fun hkey => ?_⟩
  rw [groupOf_place h.structureId h.ascends]
  exact h.groups hkey

def Settlement.Shows (r₀ : Registry) (id : StructureId) : Settlement → Prop
  | row r => ∀ side key, (r₀.endpoint id ⟨r.port, side⟩).group = some key → r.group side = some key
  | listing rows => Ascends rows ∧ ShowsGroups r₀ id rows
  | prune => False

theorem Views.settle (h : Views r₀ selected c) {settlement : Settlement}
    (hshows : settlement.Shows r₀ selected.record.id) :
    Views r₀ selected (c.apply (settlement.edit selected.record.id)) := by
  cases settlement with
  | prune => cases hshows
  | listing rows => exact h.replaceRows hshows.1 hshows.2
  | row r =>
    refine ⟨(selected_apply rfl).trans h.stays, ascends_confirm h.structureId h.ascends,
      fun {spot key} hkey => ?_⟩
    simp only [groupOf, Settlement.edit]
    rw [row_confirm h.structureId h.ascends]
    split
    next hport =>
      obtain ⟨port, side⟩ := spot
      obtain rfl : port = r.port := hport
      exact hshows side key hkey
    next => exact h.groups hkey

end views

/-! ### Jobs without placements -/

section unplaced

variable {r₀ : Registry} {selected : SelectedStructure} {rows₀ : List Splice} {α : Type}
  {past : List Exchange} {found c : Client}

abbrev KeepsView (r₀ : Registry) (selected : SelectedStructure) (rows₀ : List Splice)
    (job : Job α) : Prop :=
  job.Preserves (.beside r₀ selected rows₀) fun _ _ left => Views r₀ selected left

theorem keepsView_update {f : Client → Client} (hrows : ∀ c, (f c).editor.rows = c.editor.rows)
    (hselected : ∀ c, (f c).editor.selected = c.editor.selected) :
    KeepsView r₀ selected rows₀ (Job.update f) :=
  Job.preserves_update fun _ _ c hview => hview.of_editor (hrows c) (hselected c)

theorem keepsView_report (notice : Notice) (value : α) :
    KeepsView r₀ selected rows₀ (do Job.notify notice; pure value) := by
  have hnotify : KeepsView r₀ selected rows₀ (Job.notify notice) :=
    keepsView_update (fun _ => rfl) fun _ => rfl
  exact hnotify.bind fun _ => Job.preserves_pure value

theorem acceptedOf_unplaced {e : Exchange} (h : e.placement? = none) :
    acceptedOf (past ++ [e]) = acceptedOf past := by
  rw [acceptedOf_concat, h]
  split <;> exact List.append_nil _

theorem abides_unplaced (call : Call) (hview : Views r₀ selected c)
    (hasks : Asked (r₀.seen selected rows₀) selected.record.id past call)
    (hcall : ∀ answer, Exchange.placement? ⟨call, answer⟩ = none) :
    (Attempt.call call).run.Abides (.beside r₀ selected rows₀) (fun past' _ left answer =>
      Views r₀ selected left ∧ acceptedOf past' = acceptedOf past ∧
        Heard r₀ selected past ⟨call, answer⟩) past found c :=
  Job.abides_call hview hasks fun answer hheard _ hnext =>
    ⟨hnext, acceptedOf_unplaced (hcall answer), hheard⟩

theorem keepsView_mergeSelected : KeepsView r₀ selected rows₀ mergeSelected := by
  intro past found c hview
  refine Job.abides_client ?_
  dsimp only
  split
  · exact keepsView_report _ _ past found c hview
  next id side ports hcheck =>
    obtain rfl : id = selected.record.id :=
      Option.some.inj ((checkSelection_eq_ok hcheck).symm.trans hview.structureId)
    have hremote : (Attempt.call (.merge selected.record.id ports side) >>= fun _ =>
        Attempt.call (.rowsOf selected.record.id)).run.Abides (.beside r₀ selected rows₀)
          (fun _ _ left answer => Views r₀ selected left ∧
            ∀ rows, answer = .ok rows → Ascends rows ∧ ShowsGroups r₀ selected.record.id rows)
          past found c := by
      refine Job.abides_attempt (fun _ _ left _ => Views r₀ selected left)
        (Job.abides_call hview rfl fun _ _ _ hnext => hnext) ?_ fun _ _ _ _ hmid => ⟨hmid, nofun⟩
      intro past' found c _ hview
      refine Job.abides_call hview trivial fun answer hheard next hnext => ⟨hnext, ?_⟩
      rintro rows rfl
      exact ⟨hheard.ascends, hheard.groups⟩
    refine hremote.bind fun past' found c answer ⟨hview, hrows⟩ => ?_
    cases answer with
    | error e => exact keepsView_report _ _ past' found c hview
    | ok rows =>
      refine Job.abides_update ?_
      have hview := hview.replaceRows (hrows rows rfl).1 (hrows rows rfl).2
      have hclear : KeepsView r₀ selected rows₀ (Job.apply .clearSelection) :=
        keepsView_update (fun _ => rfl) fun _ => rfl
      exact (hclear.bind fun _ => keepsView_report _ _) past' found _ hview

theorem keepsView_toggleMergeMode : KeepsView r₀ selected rows₀ toggleMergeMode := by
  have htoggle : KeepsView r₀ selected rows₀ (Job.apply .toggleMergeMode) :=
    keepsView_update (fun _ => rfl) fun _ => rfl
  exact htoggle.bind fun _ => Job.preserves_client fun _ => Job.preserves_pure _

theorem keepsView_togglePort (spot : PortSide) : KeepsView r₀ selected rows₀ (togglePort spot) := by
  have hkept : ∀ c : Client, (c.apply (.togglePort spot)).editor.rows = c.editor.rows ∧
      (c.apply (.togglePort spot)).editor.selected = c.editor.selected := fun c => by
    simp only [Client.apply, Editor.apply, Edit.scope, Option.all_none, if_true, Editor.perform]
    split <;> exact ⟨rfl, rfl⟩
  have htoggle : KeepsView r₀ selected rows₀ (Job.apply (.togglePort spot)) :=
    keepsView_update (fun c => (hkept c).1) fun c => (hkept c).2
  exact htoggle.bind fun _ => Job.preserves_client fun _ => Job.preserves_pure _

theorem abides_cableFibers (cable : Cable) (structures : List Structure)
    (hview : Views r₀ selected c) :
    (cableFibers cable).run.Abides (.beside r₀ selected rows₀) (fun past' _ left answer =>
      Views r₀ selected left ∧ acceptedOf past' = acceptedOf past ∧ ∀ fibers, answer = .ok fibers →
        fibers = (Freight.cable cable structures).fibers r₀) past found c := by
  simp only [cableFibers, Freight.fibers]
  rw [← Freight.mergeSort_bundle]
  split
  · refine Job.abides_attempt _ (abides_unplaced (.fibersOf cable.id) hview trivial fun _ => rfl) ?_
      fun _ _ _ _ hmid => ⟨hmid.1, hmid.2.1, by simp⟩
    rintro past' found c fibers ⟨hview, hsame, hheard⟩
    have hheard : r₀.fibersOf cable.id = .ok fibers := hheard
    refine ⟨hview, hsame, fun sorted heq => ?_⟩
    rw [← Except.ok.inj heq, hheard]
    rfl
  · exact ⟨hview, rfl, fun sorted heq => (Except.ok.inj heq).symm⟩

end unplaced

/-! ### Placements -/

section placements

variable {r₀ : Registry} {selected : SelectedStructure} {rows₀ : List Splice}
  {past past' : List Exchange} {found c : Client} {p : Placement}

def Adds (past past' : List Exchange) (p : Placement) (ok : Bool) : Prop :=
  acceptedOf past' = acceptedOf past ++ [p] ∨ ok = false ∧ acceptedOf past' = acceptedOf past

theorem adds_place (p : Placement) (answer : Except Failure Splice) :
    Adds past (past ++ [⟨.place p, answer⟩]) p answer.isOk := by
  have hconcat := acceptedOf_concat past ⟨.place p, answer⟩
  cases answer with
  | error e => exact .inr ⟨rfl, hconcat.trans (List.append_nil _)⟩
  | ok row => exact .inl hconcat

theorem Adds.unplaced {ok : Bool} (h : Adds past past' p ok) {past'' : List Exchange}
    (hsame : acceptedOf past'' = acceptedOf past') : Adds past past'' p ok := by
  simp only [Adds]
  rw [hsame]
  exact h

theorem Adds.failed {ok : Bool} (h : Adds past past' p ok) : Adds past past' p false :=
  h.imp_right fun hnone => ⟨rfl, hnone.2⟩

theorem Adds.accepted (h : Adds past past' p true) :
    acceptedOf past' = acceptedOf past ++ [p] :=
  h.resolve_right fun hnone => Bool.noConfusion hnone.1

theorem abides_placement (hview : Views r₀ selected c) {spot : PortSide} {fiber : FiberRef}
    (hasks : ∀ q ∈ acceptedOf past,
      Apart (r₀.seen selected rows₀) q.slot (selected.record.id, spot)) (merged : Bool) :
    (Attempt.call (.place ⟨selected.record.id, spot, fiber⟩) >>= fun row =>
        settleMerged selected.record.id merged (.row row)).run.Abides (.beside r₀ selected rows₀)
      (fun past' _ left answer => Views r₀ selected left ∧
        Adds past past' ⟨selected.record.id, spot, fiber⟩ answer.isOk ∧
          ∀ settlement, answer = .ok settlement → settlement.Shows r₀ selected.record.id)
      past found c := by
  refine Job.abides_attempt (fun past' _ left answer => Views r₀ selected left ∧
      Adds past past' ⟨selected.record.id, spot, fiber⟩ answer.isOk ∧
        ∀ row, answer = .ok row → (Settlement.row row).Shows r₀ selected.record.id)
    ?_ ?_ fun _ _ _ _ hmid => ⟨hmid.1, hmid.2.1, nofun⟩
  · refine Job.abides_call hview hasks fun answer hheard next hnext =>
      ⟨hnext, adds_place _ answer, ?_⟩
    rintro row rfl
    exact hheard
  rintro past' found c row ⟨hview, hadds, hrow⟩
  cases merged with
  | false =>
    refine ⟨hview, hadds, fun settlement heq => ?_⟩
    obtain rfl := Except.ok.inj heq
    exact hrow row rfl
  | true =>
    simp only [settleMerged, if_true]
    rw [map_eq_pure_bind]
    refine Job.abides_attempt _
      (abides_unplaced (.rowsOf selected.record.id) hview trivial fun _ => rfl) ?_ ?_
    · rintro past'' found c rows ⟨hview, hsame, hheard⟩
      refine ⟨hview, hadds.unplaced hsame, fun settlement heq => ?_⟩
      obtain rfl := Except.ok.inj heq
      exact ⟨hheard.ascends, hheard.groups⟩
    · exact fun past'' _ _ e hmid => ⟨hmid.1, (hadds.unplaced hmid.2.1).failed, nofun⟩

theorem abides_assign (hview : Views r₀ selected c) {spot : PortSide} (fiber : LabelledFiber)
    (hasks : ∀ q ∈ acceptedOf past,
      Apart (r₀.seen selected rows₀) q.slot (selected.record.id, spot)) :
    (assign selected.record.id spot fiber).run.Abides (.beside r₀ selected rows₀)
      (fun past' _ left answer => Views r₀ selected left ∧
        Adds past past' ⟨selected.record.id, spot, fiber.fiber.ref⟩ answer.isOk) past found c := by
  refine Job.abides_attempt (fun past' _ left _ => Views r₀ selected left ∧ past' = past)
    (Job.abides_client ⟨hview, rfl⟩) ?_ ?_
  · rintro past found c merged ⟨hview, rfl⟩
    simp only [optimistically]
    refine Job.abides_client (Job.abides_update ?_)
    refine (abides_placement (hview.place spot fiber.termination) hasks merged).bind ?_
    rintro past' found left (e | settlement) ⟨hview', hadds, hshows⟩
    · exact Job.abides_update ⟨hview'.replaceRows hview.ascends hview.groups, hadds⟩
    · exact Job.abides_update ⟨hview'.settle (hshows settlement rfl), hadds⟩
  · rintro past _ _ e ⟨hview, rfl⟩
    exact ⟨hview, .inr ⟨rfl, rfl⟩⟩

/-! ### One structure -/

structure FillTarget.Seen (r₀ : Registry) (selected : SelectedStructure) (rows₀ : List Splice)
    (target : FillTarget) : Prop where
  editor : target.inEditor = true → target.structureId = selected.record.id
  groups : ∀ spot, r₀.seen selected rows₀ (target.structureId, spot) = groupOf target.rows spot

variable {target : FillTarget}

theorem abides_placeOne (hview : Views r₀ selected c) (htarget : target.Seen r₀ selected rows₀)
    {spot : PortSide} (fiber : LabelledFiber)
    (hasks : ∀ q ∈ acceptedOf past,
      Apart (r₀.seen selected rows₀) q.slot (target.structureId, spot)) :
    (placeOne target spot fiber).run.Abides (.beside r₀ selected rows₀)
      (fun past' _ left answer => Views r₀ selected left ∧
        Adds past past' ⟨target.structureId, spot, fiber.fiber.ref⟩ answer.isOk) past found c := by
  simp only [placeOne]
  split
  next heditor =>
    rw [htarget.editor heditor] at hasks ⊢
    exact abides_assign hview fiber hasks
  next =>
    refine Job.abides_attempt (fun past' _ left answer => Views r₀ selected left ∧
      Adds past past' ⟨target.structureId, spot, fiber.fiber.ref⟩ answer.isOk) ?_ ?_
      fun _ _ _ _ hmid => hmid
    · exact Job.abides_call hview hasks fun answer _ next hnext => ⟨hnext, adds_place _ answer⟩
    · exact fun _ _ _ _ hmid => hmid

structure Counts (load : List FiberRef) (accepted : List Placement) (placed : Nat) : Prop where
  placed : placed ≤ accepted.length
  first : accepted.map (·.fiber) <+: load

structure Loaded (load : List FiberRef) (accepted : List Placement) (rest : List LabelledFiber)
    (report : FillReport) : Prop where
  placed : report.placed ≤ accepted.length
  parted : accepted.map (·.fiber) ++ rest.map (·.fiber.ref) = load

section load

variable {load : List FiberRef} {accepted accepted' : List Placement} {rest : List LabelledFiber}
  {report : FillReport} {fiber : LabelledFiber} {id : StructureId} {spot : PortSide}

theorem Loaded.counts (h : Loaded load accepted rest report) :
    Counts load accepted report.placed :=
  ⟨h.placed, h.parted ▸ List.prefix_append ..⟩

theorem Loaded.add (h : Loaded load accepted (fiber :: rest) report) :
    Loaded load (accepted ++ [⟨id, spot, fiber.fiber.ref⟩]) rest (report.add id) := by
  refine ⟨?_, ?_⟩
  · rw [List.length_append]
    exact Nat.succ_le_succ h.placed
  · rw [← h.parted, List.map_append, List.append_assoc]
    rfl

theorem Loaded.counts_failed (h : Loaded load (acceptedOf past) (fiber :: rest) report)
    (hadds : Adds past past' ⟨id, spot, fiber.fiber.ref⟩ false) :
    Counts load (acceptedOf past') report.placed := by
  rcases hadds with hone | ⟨-, hnone⟩
  · -- The fiber was placed, and the listing that was to settle it failed.
    rw [hone]
    have hcounts : Counts load (acceptedOf past ++ [⟨id, spot, fiber.fiber.ref⟩])
      (report.add id).placed := h.add.counts
    exact ⟨(Nat.le_succ _).trans hcounts.placed, hcounts.first⟩
  · rw [hnone]
    exact h.counts

theorem loaded_start (fibers : List Fiber) (name : String) (hnone : acceptedOf past = [])
    (hplaced : report.placed = 0) :
    Loaded (fibers.map (·.ref)) (acceptedOf past) (fibers.map (⟨·, name⟩)) report := by
  refine ⟨hplaced.trans_le (Nat.zero_le _), ?_⟩
  rw [hnone, List.map_nil, List.nil_append, List.map_map]
  rfl

end load

theorem abides_fillPorts {load : List FiberRef} (htarget : target.Seen r₀ selected rows₀)
    (side : Side) (ports : List PortNumber) {batch fibers : List LabelledFiber}
    (filled : List MergeGroupId) (pass : FillPass) (hview : Views r₀ selected c)
    (hnodup : ports.Nodup) (hfibers : batch.drop pass.placed = fibers)
    (hload : Loaded load (acceptedOf past) fibers pass.report)
    (happart : ∀ port ∈ ports, (groupOf target.rows ⟨port, side⟩).any (· ∈ filled) = false →
      ∀ q ∈ acceptedOf past,
        Apart (r₀.seen selected rows₀) q.slot (target.structureId, ⟨port, side⟩)) :
    (fillPorts target side ports fibers filled pass).Abides (.beside r₀ selected rows₀)
      (fun past' _ left pass' => Views r₀ selected left ∧
        Counts load (acceptedOf past') pass'.report.placed ∧
        (pass'.failure = none →
          Loaded load (acceptedOf past') (batch.drop pass'.placed) pass'.report)) past found c := by
  induction ports generalizing fibers filled pass past found c with
  | nil => exact ⟨hview, hload.counts, fun _ => hfibers.symm ▸ hload⟩
  | cons port ports ih =>
    obtain ⟨hport, hnodup⟩ := List.nodup_cons.1 hnodup
    cases fibers with
    | nil => exact ⟨hview, hload.counts, fun _ => hfibers.symm ▸ hload⟩
    | cons fiber fibers =>
      simp only [fillPorts]
      split
      next =>
        exact ih filled pass hview hnodup hfibers hload
          fun other hother => happart other (List.mem_cons_of_mem port hother)
      next hopen =>
        have hasks := happart port List.mem_cons_self (Bool.eq_false_iff.2 hopen)
        refine (abides_placeOne hview htarget fiber hasks).bind ?_
        rintro past' found c (e | _) ⟨hview, hadds⟩
        · exact ⟨hview, hload.counts_failed hadds, by simp⟩
        have haccepted := hadds.accepted
        -- The ports that are left are other ones, and not in the group that has just had its fiber.
        refine ih _ (pass.add target.structureId) hview hnodup ?_ ?_ ?_
        · exact (List.tail_drop ..).symm.trans (congrArg List.tail hfibers)
        · rw [haccepted]
          exact hload.add
        · intro other hother hfree q hq
          rw [haccepted] at hq
          rcases List.mem_append.1 hq with hq | hq
          · refine happart other (List.mem_cons_of_mem port hother) ?_ q hq
            refine Bool.eq_false_iff.2 fun hfilled => ?_
            obtain ⟨key, hkey, hmem⟩ := (Option.any_eq_true _ _).1 hfilled
            simp [hkey, of_decide_eq_true hmem] at hfree
          · obtain rfl := List.mem_singleton.1 hq
            refine fun _ => ⟨?_, fun key hkey hkey' => ?_⟩
            · rintro ⟨⟩
              exact hport hother
            · simp only [Placement.slot] at hkey
              rw [htarget.groups] at hkey hkey'
              simp [hkey, hkey'] at hfree

theorem abides_fillTarget {load : List FiberRef} (htarget : target.Seen r₀ selected rows₀)
    (side : Side) (fibers : List LabelledFiber) (report : FillReport) (hview : Views r₀ selected c)
    (hnodup : target.ports.Nodup) (hload : Loaded load (acceptedOf past) fibers report)
    (happart : ∀ port ∈ target.ports, ∀ q ∈ acceptedOf past,
      Apart (r₀.seen selected rows₀) q.slot (target.structureId, ⟨port, side⟩)) :
    (fillTarget target side fibers report).Abides (.beside r₀ selected rows₀)
      (fun past' _ left pass => Views r₀ selected left ∧
        Counts load (acceptedOf past') pass.report.placed ∧
        (pass.failure = none →
          Loaded load (acceptedOf past') (fibers.drop pass.placed) pass.report)) past found c :=
  abides_fillPorts htarget side target.ports [] { report } hview hnodup rfl hload
    fun port hport _ => happart port hport

end placements

/-! ### The structures behind -/

section later

variable {r₀ : Registry} {selected : SelectedStructure} {rows₀ : List Splice} {limits : Limits}
  {past : List Exchange} {found c : Client} {target : FillTarget} {side : Side}
  {load : List FiberRef}

theorem Listed.apart (hr₀ : r₀.WellFormed limits) {record : Structure}
    (hother : record.id ≠ selected.record.id) {rows : List Splice}
    (h : Listed r₀ selected past record.id rows) {spot : PortSide}
    (hfree : isOccupied rows spot = false) :
    ∀ q ∈ acceptedOf past, Apart (r₀.seen selected rows₀) q.slot (record.id, spot) := by
  intro q hq hsame
  have hid : q.structureId = record.id := hsame
  have hunreached : ¬r₀.Reaches q record.id spot := fun hreach => by
    rw [h.occupied q hq spot hreach] at hfree
    cases hfree
  refine ⟨?_, fun key hkey hkey' => hunreached ?_⟩
  · rintro rfl
    have hself := r₀.reaches_self q
    rw [hid] at hself
    exact hunreached hself
  · simp only [Registry.seen, Placement.slot, hid, if_neg hother, Registry.groupOn] at hkey hkey'
    rw [← hid] at hkey hkey' ⊢
    exact hr₀.reaches_of_group hkey hkey'

theorem abides_fetched (hr₀ : r₀.WellFormed limits) (hview : Views r₀ selected c)
    (record : Structure) (hother : record.id ≠ selected.record.id) :
    (remoteTarget record side).run.Abides (.beside r₀ selected rows₀)
      (fun past' _ left answer => Views r₀ selected left ∧ acceptedOf past' = acceptedOf past ∧
        ∀ target, answer = .ok target → target.Seen r₀ selected rows₀ ∧ target.ports.Nodup ∧
          ∀ port ∈ target.ports, ∀ q ∈ acceptedOf past,
            Apart (r₀.seen selected rows₀) q.slot
              (target.structureId, ⟨port, side⟩)) past found c := by
  simp only [remoteTarget]
  split
  · exact ⟨hview, rfl, by simp⟩
  next typeId _ =>
    refine Job.abides_attempt _ (abides_unplaced (.portsOf typeId) hview trivial fun _ => rfl) ?_
      fun _ _ _ _ hmid => ⟨hmid.1, hmid.2.1, by simp⟩
    rintro past₁ found c ports ⟨hview, hsame, -⟩
    refine Job.abides_attempt _ (abides_unplaced (.rowsOf record.id) hview trivial fun _ => rfl) ?_
      fun _ _ _ _ hmid => ⟨hmid.1, hmid.2.1.trans hsame, by simp⟩
    rintro past₂ found c rows ⟨hview, hsame', hlisted⟩
    refine ⟨hview, hsame'.trans hsame, fun target heq => ?_⟩
    obtain rfl := Except.ok.inj heq
    refine ⟨⟨by simp, fun spot => ?_⟩, ?_, fun port hport q hq => ?_⟩
    · simp only [Registry.seen, if_neg hother]
      exact (hlisted.exactly hother spot).symm
    · dsimp only
      split
      · exact nodup_available ..
      · exact .nil
    · rw [← hsame] at hq
      refine hlisted.apart hr₀ hother ?_ q hq
      dsimp only at hport
      split at hport
      · simpa using List.mem_takeWhile_imp hport
      · cases hport

theorem abides_fillLater (hr₀ : r₀.WellFormed limits) (side : Side) (later : List Structure)
    (hother : ∀ record ∈ later, record.id ≠ selected.record.id) (fibers : List LabelledFiber)
    (report : FillReport) (hview : Views r₀ selected c)
    (hload : Loaded load (acceptedOf past) fibers report) :
    (fillLater side later fibers report).Abides (.beside r₀ selected rows₀)
      (fun past' _ left result => Views r₀ selected left ∧
        Counts load (acceptedOf past') result.2.placed) past found c := by
  induction later generalizing fibers report past found c with
  | nil => exact ⟨hview, hload.counts⟩
  | cons record later ih =>
    simp only [fillLater]
    split
    · exact ⟨hview, hload.counts⟩
    · refine (abides_fetched hr₀ hview record (hother record List.mem_cons_self)).bind ?_
      rintro past₁ found c (e | target) ⟨hview, hsame, htarget⟩
      · exact ⟨hview, hsame.symm ▸ hload.counts⟩
      obtain ⟨hseen, hnodup, happart⟩ := htarget target rfl
      rw [← hsame] at hload happart
      dsimp only
      split
      · exact ⟨hview, hload.counts⟩
      · refine (abides_fillTarget hseen side _ _ hview hnodup hload happart).bind ?_
        rintro past₂ found c pass ⟨hview, hcounts, hnext⟩
        split
        · exact ⟨hview, hcounts⟩
        next hnone =>
          exact ih (fun record hmem => hother record (List.mem_cons_of_mem _ hmem)) _ _ hview
            (hnext hnone)

theorem abides_fillCable (hr₀ : r₀.WellFormed limits) (hseen : target.Seen r₀ selected rows₀)
    (hnodup : target.ports.Nodup) (side : Side) {later : List Structure}
    (hother : ∀ record ∈ later, record.id ≠ selected.record.id) (fibers : List LabelledFiber)
    {report : FillReport} (hview : Views r₀ selected c) (hnone : acceptedOf past = [])
    (hload : Loaded load (acceptedOf past) fibers report) :
    (fillCable target later side fibers report).Abides (.beside r₀ selected rows₀)
      (fun past' _ left result => Views r₀ selected left ∧
        Counts load (acceptedOf past') result.2.placed) past found c := by
  refine (abides_fillTarget hseen side _ _ hview hnodup hload fun _ _ q hq => ?_).bind ?_
  · rw [hnone] at hq
    cases hq
  rintro past₂ found c pass ⟨hview, hcounts, hnext⟩
  split
  · exact ⟨hview, hcounts⟩
  next hgoing => exact abides_fillLater hr₀ side _ hother _ _ hview (hnext hgoing)

end later

/-! ### Operations -/

def FillOutcome.placed (outcome : FillOutcome) : Nat :=
  outcome.report?.elim 0 (·.placed)

def Operation.connects : Operation → Bool
  | dropFiber _ _ | dropBundle _ _ | dropCable _ _ _ | mergeSelected | toggleMergeMode
  | togglePort _ =>
    true
  | _ => false

/-- What a reported connection stands for: the authority has accepted the placement of the fiber,
and of a fill those of as many of its fibers, the first ones, as it counts. -/
def Operation.Reports (operation : Operation) (r₀ : Registry) (id : StructureId)
    (accepted : List Placement) : Outcome → Prop
  | .flag reported => ∀ spot fiber, operation = .dropFiber spot fiber → reported = true →
      accepted = [⟨id, spot, fiber.fiber.ref⟩]
  | .fill outcome => ∀ start freight, operation = Freight.operation start freight →
      Counts ((freight.fibers r₀).map (·.ref)) accepted outcome.placed
  | .drop _ => True

section operations

variable {r₀ : Registry} {selected : SelectedStructure} {rows₀ : List Splice} {limits : Limits}
  {past : List Exchange} {found c : Client} {α : Type} {load : List FiberRef}

theorem abides_finishFill (kind : FillKind) (failure : Option Failure) {report : FillReport}
    (hview : Views r₀ selected c) (hcounts : Counts load (acceptedOf past) report.placed) :
    (finishFill kind failure report).Abides (.beside r₀ selected rows₀)
      (fun past' _ left outcome => Views r₀ selected left ∧
        Counts load (acceptedOf past') outcome.placed) past found c := by
  have hnotified : ∀ notice, Views r₀ selected (c.notify notice) :=
    fun _ => hview.of_editor rfl rfl
  simp only [finishFill]
  cases failure with
  | some e =>
    dsimp only
    split <;> exact Job.abides_update ⟨hnotified _, hcounts⟩
  | none =>
    dsimp only
    split <;> exact Job.abides_update ⟨hnotified _, hcounts⟩

theorem counts_none (load : List FiberRef) : Counts load [] 0 :=
  ⟨le_rfl, List.nil_prefix⟩

theorem abides_rejectFill (reason : String) (hview : Views r₀ selected c)
    (hnone : acceptedOf past = []) :
    (rejectFill reason).Abides (.beside r₀ selected rows₀)
      (fun past' _ left outcome => Views r₀ selected left ∧
        Counts load (acceptedOf past') outcome.placed) past found c :=
  Job.abides_update ⟨hview.of_editor rfl rfl, hnone.symm ▸ counts_none load⟩

theorem abides_slot {ends : List Exchange → α → Prop} {refused job : Job α}
    (hrefused : refused.Abides (.beside r₀ selected rows₀)
      (fun past' _ left value => Views r₀ selected left ∧ ends past' value) past found c)
    (hjob : ∀ slot, job.Abides (.beside r₀ selected rows₀)
      (fun past' _ left value => Views r₀ selected left ∧ ends past' value) past found
      { c with slot }) :
    (exclusively refused job).Abides (.beside r₀ selected rows₀)
      (fun past' _ left value => Views r₀ selected left ∧ ends past' value) past found c := by
  simp only [exclusively]
  refine Job.abides_client ?_
  split
  · exact hrefused
  next slot _ =>
    refine Job.abides_update ((hjob slot).bind fun past' found left value hends => ?_)
    exact Job.abides_update ⟨hends.1.of_editor rfl rfl, hends.2⟩

theorem seen_localTarget (hview : Views r₀ selected c) {start : PortSide} {target : FillTarget}
    (htarget : localTarget c.editor start = some target) :
    target.Seen r₀ selected c.editor.rows ∧ target.ports.Nodup := by
  simp only [localTarget] at htarget
  rw [hview.structureId] at htarget
  obtain rfl := Option.some.inj htarget
  exact ⟨⟨fun _ => rfl, fun spot => seen_selected ..⟩, nodup_available ..⟩

theorem abides_dropBundle_beside (hview : Views r₀ selected c) (start : PortSide)
    (bundle : Bundle) :
    (dropBundle start bundle).Abides (.beside r₀ selected c.editor.rows)
      (fun past' _ left outcome => Views r₀ selected left ∧
        Counts (((Freight.bundle bundle).fibers r₀).map (·.ref)) (acceptedOf past') outcome.placed)
      [] found c := by
  refine abides_slot (abides_rejectFill _ hview rfl) fun slot => Job.abides_client ?_
  have hview' : Views r₀ selected { c with slot } := hview.of_editor rfl rfl
  simp only [Freight.fibers]
  rw [← Freight.mergeSort_absolute]
  split
  · exact abides_rejectFill _ hview' rfl
  next target htarget =>
    obtain ⟨hseen, hnodup⟩ := seen_localTarget hview htarget
    split
    · exact abides_rejectFill _ hview' rfl
    · split
      · exact abides_rejectFill _ hview' rfl
      · refine (abides_fillTarget hseen start.side _ _ hview' hnodup (loaded_start _ _ rfl rfl)
          fun _ _ q hq => ?_).bind ?_
        · cases hq
        rintro past' found c pass ⟨hview, hcounts, -⟩
        exact abides_finishFill _ _ hview hcounts

theorem abides_dropCable_beside (hr₀ : r₀.WellFormed limits) (hview : Views r₀ selected c)
    (start : PortSide) (cable : Cable) (structures : List Structure) :
    (dropCable start cable structures).Abides (.beside r₀ selected c.editor.rows)
      (fun past' _ left outcome => Views r₀ selected left ∧
        Counts (((Freight.cable cable structures).fibers r₀).map (·.ref)) (acceptedOf past')
          outcome.placed) [] found c := by
  refine abides_slot (abides_rejectFill _ hview rfl) fun slot => Job.abides_client ?_
  have hview' : Views r₀ selected { c with slot } := hview.of_editor rfl rfl
  dsimp only
  rw [hview.stays]
  split
  next selected' target heq htarget =>
    obtain rfl := Option.some.inj heq
    obtain ⟨hseen, hnodup⟩ := seen_localTarget hview htarget
    split
    · exact abides_rejectFill _ hview' rfl
    · refine (abides_cableFibers cable structures hview').bind ?_
      rintro past' found c' (e | fibers) ⟨hview, hnone, hfibers⟩
      · exact abides_finishFill _ _ hview (hnone.symm ▸ counts_none _)
      rw [← hfibers fibers rfl]
      dsimp only
      split
      · exact abides_rejectFill _ hview hnone
      · refine (abides_fillCable hr₀ hseen hnodup start.side
          (fun record hmem => (mem_laterStructures hmem).2) _ hview hnone
          (loaded_start _ _ hnone rfl)).bind ?_
        rintro past'' found c'' result ⟨hview, hcounts⟩
        exact abides_finishFill _ _ hview hcounts
  · exact abides_rejectFill _ hview' rfl

theorem abides_dropFiber (hview : Views r₀ selected c) (spot : PortSide) (fiber : LabelledFiber) :
    (dropFiber spot fiber).Abides (.beside r₀ selected rows₀)
      (fun past' _ left reported => Views r₀ selected left ∧ (reported = true →
        acceptedOf past' = [⟨selected.record.id, spot, fiber.fiber.ref⟩])) [] found c := by
  refine Job.abides_client ?_
  rw [hview.structureId]
  refine (abides_assign hview fiber fun _ hq => absurd hq List.not_mem_nil).bind ?_
  rintro past' found c (e | _) ⟨hview, hadds⟩
  · exact Job.abides_update ⟨hview.of_editor rfl rfl, nofun⟩
  · exact Job.abides_update ⟨hview.of_editor rfl rfl, fun _ => hadds.accepted⟩

theorem reports_of_keepsView {job : Job Bool} (h : KeepsView r₀ selected rows₀ job)
    {operation : Operation} (hother : ∀ spot fiber, operation ≠ .dropFiber spot fiber)
    (hview : Views r₀ selected c) :
    (Outcome.flag <$> job).Abides (.beside r₀ selected rows₀)
      (fun past' _ left outcome => Views r₀ selected left ∧
        operation.Reports r₀ selected.record.id (acceptedOf past') outcome) [] c c :=
  Job.Abides.map <| (h [] c c hview).mono fun _ _ _ _ hleft =>
    ⟨hleft, fun spot fiber heq => absurd heq (hother spot fiber)⟩

theorem abides_connects (hr₀ : r₀.WellFormed limits) {operation : Operation}
    (hconnects : operation.connects = true) (hview : Views r₀ selected c) :
    operation.job.Abides (.beside r₀ selected c.editor.rows)
      (fun past' _ left outcome => Views r₀ selected left ∧
        operation.Reports r₀ selected.record.id (acceptedOf past') outcome) [] c c := by
  cases operation with
  | dropFiber spot fiber =>
    refine Job.Abides.map ((abides_dropFiber hview spot fiber).mono ?_)
    rintro past' _ left reported ⟨hview, haccepted⟩
    refine ⟨hview, fun spot' fiber' heq => ?_⟩
    obtain ⟨rfl, rfl⟩ := Operation.dropFiber.inj heq
    exact haccepted
  | dropBundle start bundle =>
    refine Job.Abides.map ((abides_dropBundle_beside hview start bundle).mono ?_)
    rintro past' _ left outcome ⟨hview, hcounts⟩
    refine ⟨hview, fun start' freight heq => ?_⟩
    cases freight with
    | bundle _ => exact (Operation.dropBundle.inj heq).2 ▸ hcounts
    | cable _ _ => cases heq
  | dropCable start cable structures =>
    refine Job.Abides.map ((abides_dropCable_beside hr₀ hview start cable structures).mono ?_)
    rintro past' _ left outcome ⟨hview, hcounts⟩
    refine ⟨hview, fun start' freight heq => ?_⟩
    cases freight with
    | bundle _ => cases heq
    | cable cable' structures' =>
      obtain ⟨-, rfl, rfl⟩ := Operation.dropCable.inj heq
      exact hcounts
  | mergeSelected => exact reports_of_keepsView keepsView_mergeSelected nofun hview
  | toggleMergeMode => exact reports_of_keepsView keepsView_toggleMergeMode nofun hview
  | togglePort spot => exact reports_of_keepsView (keepsView_togglePort spot) nofun hview
  | _ => cases hconnects

end operations

end CrossConnect
