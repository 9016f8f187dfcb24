import CrossConnect.Proofs.Client.Edit
import CrossConnect.Proofs.Client.Overlap
import CrossConnect.Proofs.Client.Terms

/-!
The slot that fills and changes of the selection share. Whatever operations overlap, and however
their calls end, one of them holds it at most, it is free when none is under way, and the selection
stays while a fill holds it.
-/
namespace CrossConnect

open Client

def Operation.isExclusive : Operation → Bool
  | select _ | deselect | dropBundle _ _ | dropCable _ _ _ => true
  | dropOnPort _ (.bundle _) _ | dropOnPort _ (.cable _) _ => true
  | _ => false

def Operation.isFill : Operation → Bool
  | dropBundle _ _ | dropCable _ _ _ => true
  | dropOnPort _ (.bundle _) _ | dropOnPort _ (.cable _) _ => true
  | _ => false

theorem Operation.isExclusive_of_isFill {operation : Operation} (h : operation.isFill = true) :
    operation.isExclusive = true := by
  cases operation with
  | dropBundle | dropCable => rfl
  | dropOnPort spot drop structures => cases drop <;> first | rfl | cases h
  | _ => cases h

def Activity.holdsSlot (a : Activity) : Bool :=
  a.operation.isExclusive && a.stage.outcome?.isNone

def Scene.holds {σ : Type} (scene : Scene σ) (index : Nat) : Bool :=
  scene.activities[index]?.any Activity.holdsSlot

/-- The ports of another structure have been asked for. -/
def Spilled (past : List Exchange) : Prop :=
  ∃ e ∈ past, ∃ typeId, e.call = .portsOf typeId

theorem Spilled.append {past : List Exchange} (h : Spilled past) (e : Exchange) :
    Spilled (past ++ [e]) := by
  obtain ⟨e', hmem, hcall⟩ := h
  exact ⟨e', List.mem_append_left _ hmem, hcall⟩

/-! ### Jobs that leave slot and selection alone -/

structure Undisturbed (found left : Client) : Prop where
  slot : left.slot = found.slot
  selected : left.editor.selected = found.editor.selected

theorem Undisturbed.refl (c : Client) : Undisturbed c c :=
  ⟨rfl, rfl⟩

theorem Undisturbed.trans {c d e : Client} (h : Undisturbed c d) (h' : Undisturbed d e) :
    Undisturbed c e :=
  ⟨h'.slot.trans h.slot, h'.selected.trans h.selected⟩

theorem undisturbed_apply {edit : Edit} {id : StructureId} (hscope : edit.scope = some id)
    (c : Client) : Undisturbed c (c.apply edit) :=
  ⟨rfl, selected_apply hscope⟩

/-- Slot and selection stay as they are found, and fibers go to the structures that are `home` until
the ports of another one have been asked for. -/
def Terms.calm (home : StructureId → Prop) : Terms where
  leaves := Undisturbed
  asks past call := ∀ p, call = .place p → home p.structureId ∨ Spilled past

abbrev Calm {α : Type} (home : StructureId → Prop) (spilled : Prop) (job : Job α) : Prop :=
  job.Preserves (.calm home)
    fun past found left => (spilled → Spilled past) ∧ Undisturbed found left

section calm

variable {home : StructureId → Prop} {spilled : Prop} {α : Type}

theorem calm_update {f : Client → Client} (h : ∀ c, Undisturbed c (f c)) :
    Calm home spilled (Job.update f) :=
  Job.preserves_update fun _ _ c hinv => ⟨hinv.1, hinv.2.trans (h c)⟩

theorem calm_apply {edit : Edit} {id : StructureId} (hscope : edit.scope = some id) :
    Calm home spilled (Job.apply edit) :=
  calm_update (undisturbed_apply hscope)

theorem calm_replaceRows (id : StructureId) (rows : List Splice) :
    Calm home spilled (Job.apply (.replaceRows id rows)) :=
  calm_apply (show (Edit.replaceRows id rows).scope = some id from rfl)

theorem calm_notify (notice : Notice) : Calm home spilled (Job.notify notice) :=
  calm_update fun _ => ⟨rfl, rfl⟩

theorem calm_report (notice : Notice) (value : α) :
    Calm home spilled (do Job.notify notice; pure value) :=
  (calm_notify notice).bind fun _ => Job.preserves_pure value

theorem calm_call {call : Call} (h : ∀ p, call = .place p → home p.structureId ∨ spilled) :
    Calm home spilled (Attempt.call call).run := by
  intro past found c ⟨hpast, hfound⟩
  refine Job.abides_call hfound (fun p heq => (h p heq).imp_right hpast) ?_
  exact fun answer _ next _ => ⟨fun hspilled => (hpast hspilled).append _, .refl next⟩

/-! ### Single ports -/

theorem calm_settleMerged (id : StructureId) (merged : Bool) (otherwise : Settlement) :
    Calm home spilled (settleMerged id merged otherwise).run := by
  cases merged with
  | true => exact (calm_call (by nofun)).map
  | false => exact Job.preserves_pure _

theorem calm_optimistically {id : StructureId} {edit : Edit} {remote : Attempt Settlement}
    (hscope : edit.scope = some id) (h : Calm home spilled remote.run) :
    Calm home spilled (optimistically id edit remote).run := by
  simp only [optimistically]
  refine Job.preserves_client fun c => (calm_apply hscope).bind fun _ => h.bind fun answer => ?_
  cases answer with
  | ok settlement =>
    exact (calm_apply (settlement.scope_edit id)).bind fun _ => Job.preserves_pure _
  | error e => exact (calm_replaceRows id _).bind fun _ => Job.preserves_pure _

theorem calm_checkMerged (spot : PortSide) : Calm home spilled (checkMerged spot).run :=
  Job.preserves_client fun _ => Job.preserves_pure _

theorem calm_assign {id : StructureId} (hhome : home id ∨ spilled) (spot : PortSide)
    (fiber : LabelledFiber) : Calm home spilled (assign id spot fiber).run := by
  refine (calm_checkMerged spot).attempt fun merged => calm_optimistically rfl ?_
  refine Job.Preserves.attempt (calm_call fun p heq => ?_) fun row => calm_settleMerged id merged _
  obtain rfl := Call.place.inj heq
  exact hhome

theorem calm_vacate (id : StructureId) (spot : PortSide) :
    Calm home spilled (vacate id spot).run :=
  (calm_checkMerged spot).attempt fun merged => calm_optimistically rfl <|
    Job.Preserves.attempt (calm_call (by nofun)) fun _ => calm_settleMerged id merged _

/-! ### Fills -/

theorem calm_placeOne {target : FillTarget} (hhome : home target.structureId ∨ spilled)
    (spot : PortSide) (fiber : LabelledFiber) :
    Calm home spilled (placeOne target spot fiber).run := by
  simp only [placeOne]
  split
  · exact calm_assign hhome spot fiber
  · refine Job.Preserves.attempt (calm_call fun p heq => ?_) fun _ => Job.preserves_pure _
    obtain rfl := Call.place.inj heq
    exact hhome

theorem calm_fillPorts {target : FillTarget} (hhome : home target.structureId ∨ spilled)
    (side : Side) (ports : List PortNumber) (fibers : List LabelledFiber)
    (filled : List MergeGroupId) (pass : FillPass) :
    Calm home spilled (fillPorts target side ports fibers filled pass) := by
  induction ports generalizing fibers filled pass with
  | nil => exact Job.preserves_pure _
  | cons port ports ih =>
    cases fibers with
    | nil => exact Job.preserves_pure _
    | cons fiber fibers =>
      simp only [fillPorts]
      split
      · exact ih (fiber :: fibers) filled pass
      · refine (calm_placeOne hhome ⟨port, side⟩ fiber).bind fun answer => ?_
        cases answer with
        | ok _ => exact ih fibers _ _
        | error e => exact Job.preserves_pure _

theorem abides_remoteTarget (record : Structure) (side : Side) (past : List Exchange)
    {found c : Client} (hfound : Undisturbed found c) :
    (remoteTarget record side).run.Abides (.calm home)
      (fun past found left answer => (answer.isOk = true → Spilled past) ∧ Undisturbed found left)
      past found c := by
  simp only [remoteTarget]
  split
  · exact ⟨by simp [Except.isOk, Except.toBool], hfound⟩
  next typeId _ =>
    refine Job.abides_attempt (fun past found left _ => Spilled past ∧ Undisturbed found left)
      ?_ ?_ fun _ _ _ _ hmid => ⟨by simp [Except.isOk, Except.toBool], hmid.2⟩
    · refine Job.abides_call hfound (fun _ hplace => by cases hplace) fun answer _ next _ =>
        ⟨?_, .refl next⟩
      exact ⟨_, List.mem_append_right _ (List.mem_singleton_self _), typeId, rfl⟩
    · intro past found c ports hmid
      have hrows : Calm home True (Attempt.call (.rowsOf record.id)).run := calm_call (by simp)
      refine Job.abides_attempt _ (hrows past found c ⟨fun _ => hmid.1, hmid.2⟩) ?_
        fun _ _ _ _ hmid => ⟨by simp [Except.isOk, Except.toBool], hmid.2⟩
      exact fun past found c rows hmid => ⟨fun _ => hmid.1 trivial, hmid.2⟩

theorem calm_fillLater (side : Side) (later : List Structure) (fibers : List LabelledFiber)
    (report : FillReport) : Calm home False (fillLater side later fibers report) := by
  induction later generalizing fibers report with
  | nil => exact Job.preserves_pure _
  | cons record later ih =>
    simp only [fillLater]
    split
    · exact Job.preserves_pure _
    · intro past found c hcalm
      refine (abides_remoteTarget record side past hcalm.2).bind fun past found c answer hmid => ?_
      cases answer with
      | error e => exact Job.preserves_pure _ past found c ⟨by simp, hmid.2⟩
      | ok target =>
        dsimp only
        split
        · exact Job.preserves_pure _ past found c ⟨by simp, hmid.2⟩
        · have hfill : Calm home True (fillTarget target side fibers report) :=
            calm_fillPorts (.inr trivial) side _ fibers [] _
          refine (hfill past found c ⟨fun _ => hmid.1 rfl, hmid.2⟩).bind
            fun past found c pass hmid => ?_
          split
          · exact Job.preserves_pure _ past found c ⟨by simp, hmid.2⟩
          · exact ih _ _ past found c ⟨by simp, hmid.2⟩

theorem calm_fillCable {first : FillTarget} (hhome : home first.structureId)
    (later : List Structure) (side : Side) (fibers : List LabelledFiber) (report : FillReport) :
    Calm home False (fillCable first later side fibers report) := by
  refine (calm_fillPorts (.inl hhome) side _ fibers [] _).bind fun pass => ?_
  split
  · exact Job.preserves_pure _
  · exact calm_fillLater side later _ _

theorem calm_cableFibers (cable : Cable) : Calm home spilled (cableFibers cable).run := by
  simp only [cableFibers]
  split
  · exact (calm_call (by simp)).attempt fun _ => Job.preserves_pure _
  · exact Job.Preserves.attempt (Job.preserves_pure _) fun _ => Job.preserves_pure _

theorem calm_finishFill (kind : FillKind) (failure : Option Failure) (report : FillReport) :
    Calm home spilled (finishFill kind failure report) := by
  simp only [finishFill]
  split
  all_goals
    split
    all_goals exact calm_report _ _

/-! ### The other operations -/

theorem calm_fetch (record : Structure) : Calm home spilled (fetch record).run := by
  simp only [fetch]
  split
  · exact Job.preserves_pure _
  · refine Job.Preserves.attempt (calm_call (by simp)) fun ports => ?_
    exact Job.Preserves.attempt (calm_call (by simp)) fun rows => Job.preserves_pure _

theorem calm_dropFiber (spot : PortSide) (fiber : LabelledFiber) (hhome : ∀ id, home id) :
    Calm home spilled (dropFiber spot fiber) := by
  refine Job.preserves_client fun c => ?_
  cases c.editor.structureId with
  | none => exact Job.preserves_pure _
  | some id =>
    refine (calm_assign (.inl (hhome id)) spot fiber).bind fun answer => ?_
    cases answer with
    | ok _ => exact calm_report _ _
    | error _ => exact calm_report _ _

theorem calm_clearPort (spot : PortSide) : Calm home spilled (clearPort spot) := by
  refine Job.preserves_client fun c => ?_
  cases c.editor.structureId with
  | none => exact Job.preserves_pure _
  | some id =>
    refine (calm_vacate id spot).bind fun answer => ?_
    cases answer with
    | ok _ => exact calm_report _ _
    | error _ => exact calm_report _ _

theorem calm_moveFiber (source target : PortSide) (fiber : LabelledFiber) (hhome : ∀ id, home id) :
    Calm home spilled (moveFiber source target fiber) := by
  simp only [moveFiber]
  split
  · exact Job.preserves_pure _
  · refine Job.preserves_client fun c => ?_
    cases c.editor.structureId with
    | none => exact Job.preserves_pure _
    | some id =>
      refine (calm_assign (.inl (hhome id)) target fiber).bind fun answer => ?_
      cases answer with
      | error _ => exact calm_report _ _
      | ok _ =>
        refine (calm_vacate id source).bind fun answer => ?_
        cases answer with
        | ok _ => exact calm_report _ _
        | error _ => exact calm_report _ _

theorem undisturbed_of_selected {edit : Edit} (hselected : ∀ editor ids,
    (Editor.perform editor ids edit).1.selected = editor.selected) (c : Client) :
    Undisturbed c (c.apply edit) := by
  refine ⟨rfl, ?_⟩
  simp only [Client.apply, Editor.apply]
  split
  · exact hselected _ _
  · rfl

theorem calm_toggleMergeMode : Calm home spilled toggleMergeMode :=
  (calm_update (undisturbed_of_selected fun _ _ => rfl)).bind fun _ => Job.preserves_client fun _ =>
    Job.preserves_pure _

theorem calm_togglePort (spot : PortSide) : Calm home spilled (togglePort spot) := by
  refine Job.Preserves.bind (calm_update (undisturbed_of_selected fun editor ids => ?_))
    fun _ => Job.preserves_client fun _ => Job.preserves_pure _
  simp only [Editor.perform]
  split <;> rfl

theorem calm_clearSelection : Calm home spilled (Job.apply .clearSelection) :=
  calm_update (undisturbed_of_selected fun _ _ => rfl)

theorem calm_mergeSelected : Calm home spilled mergeSelected := by
  refine Job.preserves_client fun c => ?_
  dsimp only
  split
  · exact calm_report _ _
  next id side ports _ =>
    refine Job.Preserves.bind (Job.Preserves.attempt (calm_call (by nofun)) fun _ =>
      calm_call (by nofun)) fun answer => ?_
    cases answer with
    | ok rows =>
      exact (calm_replaceRows id _).bind fun _ => calm_clearSelection.bind fun _ => calm_report _ _
    | error e => exact calm_report _ _

theorem calm_unmerge (group : MergeGroupId) (ports : Option (List PortNumber)) :
    Calm home spilled (unmerge group ports) := by
  refine Job.preserves_client fun c => ?_
  dsimp only
  cases c.editor.structureId with
  | none => exact Job.preserves_pure _
  | some id =>
    dsimp only
    split
    · exact Job.preserves_pure _
    · refine Job.Preserves.bind (Job.Preserves.attempt (calm_call (by nofun)) fun _ =>
        calm_call (by nofun)) fun answer => ?_
      cases answer with
      | ok rows => exact (calm_replaceRows id _).bind fun _ => calm_report _ _
      | error e => exact calm_report _ _

theorem calm_fillGroup (id : StructureId) (group : MergeGroupId) (ports : List PortNumber)
    (spot : PortSide) (fibers : List Fiber) (cableName : String) :
    Calm home spilled (fillGroup id group ports spot fibers cableName) := by
  refine Job.Preserves.bind ?_ fun answer => ?_
  · simp only [uploadToGroup]
    split
    · exact Job.preserves_pure _
    · exact calm_optimistically rfl
        (Job.Preserves.attempt (calm_call (by simp)) fun _ => (calm_call (by simp)).map)
  · cases answer with
    | ok _ => exact calm_report _ _
    | error _ => exact calm_report _ _

theorem calm_dropOnGroup (group : MergeGroupId) (side : Side) (drop : Drop)
    (hhome : ∀ id, home id) : Calm home spilled (dropOnGroup group side drop) := by
  refine Job.preserves_client fun c => ?_
  dsimp only
  cases c.editor.structureId with
  | none => exact Job.preserves_pure _
  | some id =>
    dsimp only
    split
    · exact calm_report _ _
    · cases drop with
      | fiber fiber => exact calm_dropFiber _ fiber hhome
      | bundle bundle => exact calm_fillGroup _ _ _ _ _ _
      | cable cable =>
        refine (calm_cableFibers cable).bind fun answer => ?_
        cases answer with
        | ok fibers => exact calm_fillGroup _ _ _ _ _ _
        | error e => exact calm_report _ _
      | mounted _ => exact calm_report _ _
      | component _ => exact calm_report _ _

end calm

/-! ### Taking the slot -/

def Client.occupied (c : Client) : Client :=
  { c with slot := { taken := true } }

section slot

variable {home : StructureId → Prop} {c : Client} {α : Type}

theorem exclusively_taken (htaken : c.slot.taken = true) (refused job : Job α) :
    exclusively refused job c = refused c := by
  rw [exclusively, Job.client_bind, Slot.begin?, if_pos htaken]

theorem exclusively_free (hfree : c.slot.taken = false) (refused job : Job α) :
    exclusively refused job c = (job c.occupied).bind fun value c =>
      .done { c with slot := c.slot.release } value := by
  rw [exclusively, Job.client_bind, Slot.begin?, if_neg (by rw [hfree]; exact Bool.false_ne_true)]
  rfl

def Released (operation : Operation) (found left : Client) : Prop :=
  left.slot.taken = false ∧
    (operation.isFill = true → left.editor.selected = found.editor.selected)

theorem abides_exclusively {operation : Operation} {refused job : Job α}
    (hfree : c.slot.taken = false)
    (h : job.Abides (.calm home)
      (fun _ found left _ => operation.isFill = true → left.editor.selected = found.editor.selected)
      [] c.occupied c.occupied) :
    (exclusively refused job).Abides (.calm home)
      (fun _ found left _ => Released operation found left) [] c.occupied c := by
  rw [Job.Abides, exclusively_free hfree]
  exact Progress.Abides.bind h fun _ _ _ _ hkept => ⟨rfl, hkept⟩

theorem abides_calm {operation : Operation} {refused : Job α} {next : Client → Job α}
    (hfree : c.slot.taken = false) (h : Calm home False (next c.occupied)) :
    (exclusively refused (Job.client >>= next)).Abides (.calm home)
      (fun _ found left _ => Released operation found left) [] c.occupied c := by
  refine abides_exclusively hfree (Job.abides_client ?_)
  exact (h [] c.occupied c.occupied ⟨nofun, .refl _⟩).mono fun _ _ _ _ hcalm _ => hcalm.2.selected

theorem structureId_localTarget {editor : Editor} {start : PortSide} {target : FillTarget}
    (h : localTarget editor start = some target) :
    editor.structureId = some target.structureId := by
  simp only [localTarget] at h
  obtain ⟨id, hid, rfl⟩ := Option.map_eq_some_iff.1 h
  exact hid

variable {operation : Operation} (hfree : c.slot.taken = false)

include hfree

theorem abides_dropBundle (hhome : ∀ id, c.editor.structureId = some id → home id)
    (start : PortSide) (bundle : Bundle) :
    (dropBundle start bundle).Abides (.calm home)
      (fun _ found left _ => Released operation found left) [] c.occupied c := by
  refine abides_calm hfree ?_
  split
  · exact calm_report _ _
  next target htarget =>
    have hid := structureId_localTarget htarget
    split
    · exact calm_report _ _
    · split
      · exact calm_report _ _
      · refine (calm_fillPorts (.inl (hhome _ hid)) _ _ _ [] _).bind fun pass => ?_
        exact calm_finishFill _ _ _

theorem abides_dropCable (hhome : ∀ id, c.editor.structureId = some id → home id)
    (start : PortSide) (cable : Cable) (structures : List Structure) :
    (dropCable start cable structures).Abides (.calm home)
      (fun _ found left _ => Released operation found left) [] c.occupied c := by
  refine abides_calm hfree ?_
  dsimp only
  split
  next selected target _ htarget =>
    have hid := structureId_localTarget htarget
    split
    · exact calm_report _ _
    · refine (calm_cableFibers cable).bind fun answer => ?_
      cases answer with
      | error e => exact calm_finishFill _ _ _
      | ok fibers =>
        dsimp only
        split
        · exact calm_report _ _
        · refine (calm_fillCable (hhome _ hid) _ _ _ _).bind fun result => ?_
          exact calm_finishFill _ _ _
  · exact calm_report _ _

theorem abides_select (hswitch : operation.isFill = false) (record : Structure) :
    (select record).Abides (.calm home)
      (fun _ found left _ => Released operation found left) [] c.occupied c := by
  refine abides_exclusively hfree ?_
  have hfetch : Calm home False (fetch record).run := calm_fetch record
  refine (hfetch [] c.occupied c.occupied ⟨nofun, .refl _⟩).bind fun past found c answer hcalm => ?_
  cases answer with
  | ok fetched => exact fun hfill => by rw [hswitch] at hfill; cases hfill
  | error e => exact fun hfill => by rw [hswitch] at hfill; cases hfill

theorem abides_deselect (hswitch : operation.isFill = false) :
    deselect.Abides (.calm home)
      (fun _ found left _ => Released operation found left) [] c.occupied c :=
  abides_exclusively hfree fun hfill => by rw [hswitch] at hfill; cases hfill

theorem abides_dropOnPort {drop : Drop} {structures : List Structure} {spot : PortSide}
    (hexclusive : (Operation.dropOnPort spot drop structures).isExclusive = true)
    (hhome : ∀ id, c.editor.structureId = some id → home id) :
    (dropOnPort spot drop structures).Abides (.calm home)
      (fun _ found left _ => Released operation found left) [] c.occupied c := by
  refine Job.abides_client ?_
  split
  · exact ⟨hfree, fun _ => rfl⟩
  · cases drop with
    | bundle bundle => exact (abides_dropBundle hfree hhome spot bundle).map
    | cable cable => exact (abides_dropCable hfree hhome spot cable structures).map
    | fiber | mounted | component => cases hexclusive

end slot

/-! ### Operations -/

def Operation.home (operation : Operation) (c : Client) (id : StructureId) : Prop :=
  operation.isFill = true → c.editor.structureId = some id

def Operation.Closes (operation : Operation) (found left : Client) : Prop :=
  if operation.isExclusive then Released operation found left else Undisturbed found left

def Operation.letIn (operation : Operation) (c : Client) : Client :=
  if operation.isExclusive then c.occupied else c

section jobs

variable {c : Client} {operation : Operation}

theorem Calm.abides {α : Type} {home : StructureId → Prop} {job : Job α} (h : Calm home False job) :
    job.Abides (.calm home) (fun _ found left _ => Undisturbed found left) [] c c :=
  (h [] c c ⟨nofun, .refl c⟩).mono fun _ _ _ _ hcalm => hcalm.2

theorem abides_admitted (hlet : operation.isExclusive = true → c.slot.taken = false) :
    operation.job.Abides (.calm (operation.home c))
      (fun _ found left _ => operation.Closes found left) [] (operation.letIn c) c := by
  have hhome : ∀ id, c.editor.structureId = some id → operation.home c id := fun id hid _ => hid
  cases operation with
  | select record => exact (abides_select (hlet rfl) rfl record).map
  | deselect => exact (abides_deselect (hlet rfl) rfl).map
  | dropBundle start bundle => exact (abides_dropBundle (hlet rfl) hhome start bundle).map
  | dropCable start cable structures =>
    exact (abides_dropCable (hlet rfl) hhome start cable structures).map
  | dropFiber spot fiber => exact (calm_dropFiber spot fiber fun _ => nofun).abides.map
  | clearPort spot => exact (calm_clearPort spot).abides.map
  | moveFiber source target fiber =>
    exact (calm_moveFiber source target fiber fun _ => nofun).abides.map
  | toggleMergeMode => exact calm_toggleMergeMode.abides.map
  | togglePort spot => exact (calm_togglePort spot).abides.map
  | mergeSelected => exact calm_mergeSelected.abides.map
  | unmerge group ports => exact (calm_unmerge group ports).abides.map
  | dropOnGroup group side drop =>
    exact (calm_dropOnGroup group side drop fun _ => nofun).abides.map
  | dropOnPort spot drop structures =>
    cases drop with
    | bundle bundle => exact (abides_dropOnPort (hlet rfl) rfl hhome).map
    | cable cable => exact (abides_dropOnPort (hlet rfl) rfl hhome).map
    | fiber fiber =>
      refine Job.Abides.map (Job.abides_client ?_)
      split
      · exact .refl c
      · exact (calm_dropFiber spot fiber fun _ => nofun).abides.map
    | mounted _ =>
      refine Job.Abides.map (Job.abides_client ?_)
      split
      · exact .refl c
      · exact ⟨rfl, rfl⟩
    | component _ =>
      refine Job.Abides.map (Job.abides_client ?_)
      split
      · exact .refl c
      · exact ⟨rfl, rfl⟩

def Progress.Refused {α : Type} (c : Client) (p : Progress α) : Prop :=
  ∃ left value, p = .done left value ∧ left.editor = c.editor ∧ left.slot = c.slot

theorem refused_map {α β : Type} {job : Job α} (h : (job c).Refused c) (f : α → β) :
    ((f <$> job) c).Refused c := by
  obtain ⟨left, value, hdone, hleft⟩ := h
  rw [map_eq_pure_bind]
  refine ⟨left, f value, ?_, hleft⟩
  change (job c).bind _ = _
  rw [hdone]
  rfl

theorem refused_exclusively {α : Type} {refused job : Job α} (htaken : c.slot.taken = true)
    (h : (refused c).Refused c) : (exclusively refused job c).Refused c := by
  rw [exclusively_taken htaken]
  exact h

theorem refused_job (hexclusive : operation.isExclusive = true) (htaken : c.slot.taken = true) :
    (operation.job c).Refused c := by
  have hswitch : (refuseSwitch c).Refused c := ⟨_, _, rfl, rfl, rfl⟩
  have hfill : (refuseFill c).Refused c := ⟨_, _, rfl, rfl, rfl⟩
  cases operation with
  | select record => exact refused_map (refused_exclusively htaken hswitch) _
  | deselect => exact refused_map (refused_exclusively htaken hswitch) _
  | dropBundle => exact refused_map (refused_exclusively htaken hfill) _
  | dropCable => exact refused_map (refused_exclusively htaken hfill) _
  | dropOnPort spot drop structures =>
    refine refused_map ?_ _
    simp only [dropOnPort]
    rw [Job.client_bind]
    split
    · exact ⟨_, _, rfl, rfl, rfl⟩
    · cases drop with
      | bundle => exact refused_map (refused_exclusively htaken hfill) _
      | cable => exact refused_map (refused_exclusively htaken hfill) _
      | fiber | mounted | component => cases hexclusive
  | _ => cases hexclusive

end jobs

/-! ### Scenes -/

section leaves

variable {home : StructureId → Prop} {operation : Operation} {past : List Exchange}
  {found left : Client} {stage : Stage}

theorem Stage.Leaves.calm
    (h : stage.Leaves (.calm home)
      (fun _ found left _ => operation.Closes found left) past found left)
    (hexclusive : operation.isExclusive = false) : Undisturbed found left := by
  cases stage with
  | sent | answered => exact h
  | ended outcome =>
    simp only [Stage.Leaves, Operation.Closes, hexclusive] at h
    exact h

theorem Stage.Leaves.held
    (h : stage.Leaves (.calm home)
      (fun _ found left _ => operation.Closes found left) past found left)
    (hexclusive : operation.isExclusive = true) (htaken : found.slot.taken = true) :
    left.slot.taken = Activity.holdsSlot ⟨operation, stage⟩ ∧
      (operation.isFill = true → left.editor.selected = found.editor.selected) := by
  rw [Activity.holdsSlot, hexclusive]
  cases stage with
  | sent | answered => exact ⟨(congrArg Slot.taken h.slot).trans htaken, fun _ => h.selected⟩
  | ended outcome =>
    simp only [Stage.Leaves, Operation.Closes, hexclusive] at h
    exact h

end leaves

namespace Scene

variable {σ : Type} {authority : Authority σ} {scene scene' : Scene σ} {index : Nat}

theorem holds_of_get {a : Activity} (h : scene.activities[index]? = some a) :
    scene.holds index = a.holdsSlot := by
  rw [holds, h]
  rfl

theorem holds_of_none (h : scene.activities[index]? = none) : scene.holds index = false := by
  rw [holds, h]
  rfl

structure Advances (scene scene' : Scene σ) (index : Nat) (operation : Operation) : Prop where
  going : ∃ stage, scene'.activities[index]? = some ⟨operation, stage⟩
  others : ∀ other ≠ index, scene'.activities[other]? = scene.activities[other]?
  slot : scene'.holds index = scene.holds index ∧ Undisturbed scene.client scene'.client ∨
    (∀ other ≠ index, scene.holds other = false) ∧
      scene'.client.slot.taken = scene'.holds index ∧
      (operation.isFill = true → scene'.client.editor.selected = scene.client.editor.selected)

/-- What is known of the slot, and of the operations under way, at any time. -/
structure Guarded (scene : Scene σ) (records : List (Record σ)) : Prop where
  taken : scene.client.slot.taken = true ↔ ∃ index, scene.holds index = true
  one : ∀ {i j}, scene.holds i = true → scene.holds j = true → i = j
  abides : ∀ {index : Nat} {operation : Operation} {stage : Stage},
    scene.activities[index]? = some ⟨operation, stage⟩ →
    stage.outcome? = none → ∃ home,
      stage.Abides (.calm home) (fun _ found left _ => operation.Closes found left)
        (exchangesOf index records) ∧
      (operation.isFill = true → ∀ id, home id → scene.client.editor.structureId = some id)

variable {records : List (Record σ)} {operation : Operation}

theorem Guarded.none_holds (h : scene.Guarded records) (hfree : scene.client.slot.taken = false)
    (index : Nat) : scene.holds index = false := by
  refine Bool.eq_false_iff.2 fun hholds => ?_
  rw [h.taken.2 ⟨index, hholds⟩] at hfree
  cases hfree

theorem Guarded.others_free (h : scene.Guarded records) (hholds : scene.holds index = true) :
    ∀ other ≠ index, scene.holds other = false :=
  fun _ hne => Bool.eq_false_iff.2 fun hother => hne (h.one hother hholds)

theorem Advances.holds_other (h : scene.Advances scene' index operation) {other : Nat}
    (hne : other ≠ index) : scene'.holds other = scene.holds other := by
  rw [holds, holds, h.others other hne]

theorem Advances.holds_eq (h : scene.Advances scene' index operation)
    (hsame : scene'.holds index = scene.holds index) : scene'.holds = scene.holds := by
  funext other
  by_cases hne : other = index
  · rw [hne, hsame]
  · exact h.holds_other hne

theorem Advances.taken_iff (h : scene.Advances scene' index operation)
    (hguarded : scene.Guarded records) :
    scene'.client.slot.taken = true ↔ ∃ index, scene'.holds index = true := by
  rcases h.slot with ⟨hsame, hcalm⟩ | ⟨hfree, htaken, -⟩
  · rw [hcalm.slot, h.holds_eq hsame]
    exact hguarded.taken
  · rw [htaken]
    refine ⟨fun hholds => ⟨index, hholds⟩, ?_⟩
    rintro ⟨other, hholds⟩
    by_cases hne : other = index
    · exact hne ▸ hholds
    · rw [h.holds_other hne, hfree other hne] at hholds
      cases hholds

theorem Advances.one (h : scene.Advances scene' index operation) (hguarded : scene.Guarded records)
    {i j : Nat} (hi : scene'.holds i = true) (hj : scene'.holds j = true) : i = j := by
  rcases h.slot with ⟨hsame, -⟩ | ⟨hfree, -, -⟩
  · rw [h.holds_eq hsame] at hi hj
    exact hguarded.one hi hj
  · have honly : ∀ other, scene'.holds other = true → other = index := fun other hholds => by
      by_contra hne
      rw [h.holds_other hne, hfree other hne] at hholds
      cases hholds
    rw [honly i hi, honly j hj]

theorem holds_of_fill {stage : Stage} (hat : scene.activities[index]? = some ⟨operation, stage⟩)
    (hfill : operation.isFill = true) (hpending : stage.outcome? = none) :
    scene.holds index = true := by
  rw [holds_of_get hat, Activity.holdsSlot, Operation.isExclusive_of_isFill hfill, hpending]
  rfl

theorem Advances.selected (h : scene.Advances scene' index operation) {other : Nat}
    (hfill : other = index → operation.isFill = true)
    (hholds : other ≠ index → scene.holds other = true) :
    scene'.client.editor.selected = scene.client.editor.selected := by
  rcases h.slot with ⟨-, hcalm⟩ | ⟨hfree, -, hkept⟩
  · exact hcalm.selected
  · refine hkept (hfill ?_)
    by_contra hne
    have := hfree other hne
    rw [hholds hne] at this
    cases this

theorem Advances.guarded (h : scene.Advances scene' index operation)
    (hguarded : scene.Guarded records) {records' : List (Record σ)}
    (hothers : ∀ other ≠ index, exchangesOf other records' = exchangesOf other records)
    (habides : ∀ stage, scene'.activities[index]? = some ⟨operation, stage⟩ →
      stage.outcome? = none → ∃ home,
        stage.Abides (.calm home) (fun _ found left _ => operation.Closes found left)
          (exchangesOf index records') ∧
        (operation.isFill = true → ∀ id, home id → scene'.client.editor.structureId = some id)) :
    scene'.Guarded records' := by
  refine ⟨h.taken_iff hguarded, h.one hguarded, ?_⟩
  intro other operation' stage hat hpending
  by_cases hne : other = index
  · subst hne
    obtain ⟨stage', hat'⟩ := h.going
    obtain ⟨rfl, -⟩ := Activity.mk.inj (Option.some.inj (hat.symm.trans hat'))
    exact habides stage hat hpending
  · rw [h.others other hne] at hat
    obtain ⟨home, hstage, hhome⟩ := hguarded.abides hat hpending
    refine ⟨home, by rw [hothers other hne]; exact hstage, fun hfill id hid => ?_⟩
    have hsame := h.selected (fun heq => absurd heq hne) fun _ => holds_of_fill hat hfill hpending
    simp only [Editor.structureId]
    rw [hsame]
    exact hhome hfill id hid

theorem Guarded.started (h : scene.Guarded records)
    (hfresh : exchangesOf scene.activities.length records = []) (operation : Operation) :
    let scene' : Scene σ := { scene with
      client := (Stage.ofProgress (operation.job scene.client)).2
      activities := scene.activities ++
        [⟨operation, (Stage.ofProgress (operation.job scene.client)).1⟩] }
    scene.Advances scene' scene.activities.length operation ∧ scene'.Guarded records := by
  intro scene'
  have hat : scene'.activities[scene.activities.length]? =
      some ⟨operation, (Stage.ofProgress (operation.job scene.client)).1⟩ :=
    (getElem?_started ..).trans (if_pos rfl)
  have hothers : ∀ other ≠ scene.activities.length,
      scene'.activities[other]? = scene.activities[other]? :=
    fun other hne => (getElem?_started ..).trans (if_neg hne)
  have hnew : scene.holds scene.activities.length = false :=
    holds_of_none (List.getElem?_eq_none le_rfl)
  -- What finds the slot taken is over at once and never holds it; all else is let in.
  by_cases hrefused : operation.isExclusive = true ∧ scene.client.slot.taken = true
  · obtain ⟨left, outcome, hdone, heditor, hslot⟩ := refused_job hrefused.1 hrefused.2
    have hended : scene'.holds scene.activities.length = false := by
      rw [holds_of_get hat, Activity.holdsSlot, hdone]
      exact Bool.and_false _
    have hadvances : scene.Advances scene' scene.activities.length operation := by
      refine ⟨⟨_, hat⟩, hothers, .inl ⟨hended.trans hnew.symm, ?_⟩⟩
      refine ⟨?_, ?_⟩
      · exact (congrArg (fun p => (Stage.ofProgress p).2.slot) hdone).trans hslot
      · exact (congrArg (fun p => (Stage.ofProgress p).2.editor.selected) hdone).trans
          (congrArg _ heditor)
    refine ⟨hadvances, hadvances.guarded h (fun _ _ => rfl) fun stage hstage hpending => ?_⟩
    obtain ⟨-, rfl⟩ := Activity.mk.inj (Option.some.inj (hstage.symm.trans hat))
    rw [hdone] at hpending
    cases hpending
  · have hlet : operation.isExclusive = true → scene.client.slot.taken = false := fun hexclusive =>
      Bool.eq_false_iff.2 fun htaken => hrefused ⟨hexclusive, htaken⟩
    obtain ⟨habides, hleaves⟩ := Stage.abides_ofProgress (abides_admitted hlet)
    have hadvances : scene.Advances scene' scene.activities.length operation := by
      refine ⟨⟨_, hat⟩, hothers, ?_⟩
      rw [holds_of_get hat]
      cases hexclusive : operation.isExclusive with
      | false =>
        refine .inl ⟨by rw [hnew, Activity.holdsSlot, hexclusive, Bool.false_and], ?_⟩
        have hcalm := hleaves.calm hexclusive
        rw [Operation.letIn, hexclusive] at hcalm
        exact hcalm
      | true =>
        have hfree := hlet hexclusive
        refine .inr ⟨fun other _ => h.none_holds hfree other, ?_⟩
        have hheld := hleaves.held hexclusive (by rw [Operation.letIn, if_pos hexclusive]; rfl)
        refine ⟨hheld.1, fun hfill => (hheld.2 hfill).trans ?_⟩
        rw [Operation.letIn, if_pos hexclusive]
        rfl
    refine ⟨hadvances, hadvances.guarded h (fun _ _ => rfl) fun stage hstage _ => ?_⟩
    obtain ⟨-, rfl⟩ := Activity.mk.inj (Option.some.inj (hstage.symm.trans hat))
    refine ⟨operation.home scene.client, ?_, fun hfill id hid => ?_⟩
    · rw [hfresh]
      exact habides
    · have hsame := hadvances.selected (fun _ => hfill) fun hne => absurd rfl hne
      simp only [Editor.structureId]
      rw [hsame]
      exact hid hfill

theorem Guarded.resumed (h : scene.Guarded records) {call : Call}
    {answer : Except Failure call.Answer}
    {resume : Except Failure call.Answer → Client → Progress Outcome}
    (htold : scene.activities[index]? = some ⟨operation, .answered call answer resume⟩) :
    let scene' : Scene σ := { scene with
      client := (Stage.ofProgress (resume answer scene.client)).2 }.advance index
        (Stage.ofProgress (resume answer scene.client)).1
    scene.Advances scene' index operation ∧ scene'.Guarded records := by
  intro scene'
  obtain ⟨home, hanswered, hhome⟩ := h.abides htold rfl
  obtain ⟨habides, hleaves⟩ := Stage.abides_ofProgress (hanswered scene.client trivial)
  have hat : scene'.activities[index]? =
      some ⟨operation, (Stage.ofProgress (resume answer scene.client)).1⟩ :=
    getElem?_advance_self htold
  have hothers : ∀ other ≠ index, scene'.activities[other]? = scene.activities[other]? :=
    fun other hne => (getElem?_advance ..).trans (if_neg hne)
  have hadvances : scene.Advances scene' index operation := by
    refine ⟨⟨_, hat⟩, hothers, ?_⟩
    rw [holds_of_get hat, holds_of_get htold]
    cases hexclusive : operation.isExclusive with
    | false =>
      refine .inl ⟨?_, hleaves.calm hexclusive⟩
      rw [Activity.holdsSlot, Activity.holdsSlot, hexclusive, Bool.false_and, Bool.false_and]
    | true =>
      have hholds : scene.holds index = true := by
        rw [holds_of_get htold, Activity.holdsSlot, hexclusive]
        rfl
      have hheld := hleaves.held hexclusive (h.taken.2 ⟨index, hholds⟩)
      exact .inr ⟨h.others_free hholds, hheld⟩
  refine ⟨hadvances, hadvances.guarded h (fun _ _ => rfl) fun stage hstage _ => ?_⟩
  obtain ⟨-, rfl⟩ := Activity.mk.inj (Option.some.inj (hstage.symm.trans hat))
  refine ⟨home, habides, fun hfill id hid => ?_⟩
  have hsame := hadvances.selected (fun _ => hfill) fun hne => absurd rfl hne
  simp only [Editor.structureId]
  rw [hsame]
  exact hhome hfill id hid

theorem Guarded.answered (h : scene.Guarded records) {call : Call}
    {resume : Except Failure call.Answer → Client → Progress Outcome}
    (hsent : scene.activities[index]? = some ⟨operation, .sent call resume⟩)
    (answer : Except Failure call.Answer) (s : σ) :
    let scene' := { scene with authority := s }.advance index (.answered call answer resume)
    scene.Advances scene' index operation ∧
      scene'.Guarded (records ++ [⟨index, ⟨call, answer⟩, scene.authority⟩]) := by
  intro scene'
  obtain ⟨home, hwaiting, hhome⟩ := h.abides hsent rfl
  have hat : scene'.activities[index]? = some ⟨operation, .answered call answer resume⟩ :=
    getElem?_advance_self hsent
  have hothers : ∀ other ≠ index, scene'.activities[other]? = scene.activities[other]? :=
    fun other hne => (getElem?_advance ..).trans (if_neg hne)
  have hadvances : scene.Advances scene' index operation := by
    refine ⟨⟨_, hat⟩, hothers, .inl ⟨?_, .refl _⟩⟩
    rw [holds_of_get hat, holds_of_get hsent]
    rfl
  refine ⟨hadvances, hadvances.guarded h (fun other hne => ?_) fun stage hstage _ => ?_⟩
  · rw [exchangesOf_concat, if_neg hne.symm, List.append_nil]
  · obtain ⟨-, rfl⟩ := Activity.mk.inj (Option.some.inj (hstage.symm.trans hat))
    refine ⟨home, ?_, hhome⟩
    rw [exchangesOf_concat, if_pos rfl]
    exact hwaiting.2 answer trivial

def FillsAt (scene : Scene σ) (event : Event) (index : Nat) : Prop :=
  ∃ operation, operation.isFill = true ∧
    (scene.holds index = true ∧ (∃ stage, scene.activities[index]? = some ⟨operation, stage⟩) ∨
      event = .start operation ∧ index = scene.activities.length)

theorem Guarded.step (h : scene.Guarded records)
    (hfresh : exchangesOf scene.activities.length records = []) (event : Event) :
    (scene.step authority event).Guarded (records ++ (scene.record? authority event).toList) ∧
      ∀ index, scene.FillsAt event index →
        (scene.step authority event).client.editor.selected = scene.client.editor.selected := by
  have hchange := changes authority scene event
  generalize scene.record? authority event = record at hchange ⊢
  generalize scene.step authority event = scene' at hchange ⊢
  cases hchange with
  | idle => exact ⟨by rw [Option.toList_none, List.append_nil]; exact h, fun _ _ => rfl⟩
  | answered answer s hsent =>
    obtain ⟨operation, hsent⟩ := stage?_eq_some hsent
    exact ⟨(h.answered hsent answer s).2, fun _ _ => rfl⟩
  | started operation =>
    obtain ⟨hadvances, hguarded⟩ := h.started hfresh operation
    refine ⟨by rw [Option.toList_none, List.append_nil]; exact hguarded, ?_⟩
    rintro index ⟨fill, hfill, ⟨hholds, stage, hat⟩ | ⟨hstart, rfl⟩⟩
    · have hlt := (List.getElem?_eq_some_iff.1 hat).1
      exact hadvances.selected (fun heq => absurd heq hlt.ne) fun _ => hholds
    · obtain rfl := Event.start.inj hstart
      exact hadvances.selected (fun _ => hfill) fun hne => absurd rfl hne
  | @resumed index call answer resume htold =>
    obtain ⟨operation, htold⟩ := stage?_eq_some htold
    obtain ⟨hadvances, hguarded⟩ := h.resumed htold
    refine ⟨by rw [Option.toList_none, List.append_nil]; exact hguarded, ?_⟩
    rintro other ⟨fill, hfill, ⟨hholds, stage, hat⟩ | ⟨hstart, -⟩⟩
    · refine hadvances.selected (fun heq => ?_) fun _ => hholds
      subst heq
      obtain ⟨rfl, -⟩ := Activity.mk.inj (Option.some.inj (hat.symm.trans htold))
      exact hfill
    · cases hstart

theorem guarded_run (authority : Authority σ) (hidle : scene.activities = [])
    (hfree : scene.client.slot.taken = false) (schedule : List Event) :
    (scene.run authority schedule).Guarded (scene.records authority schedule) := by
  induction schedule using List.reverseRecOn with
  | nil =>
    have hnone : ∀ index, scene.holds index = false := fun index =>
      holds_of_none (by rw [hidle]; rfl)
    change scene.Guarded []
    refine ⟨?_, fun hi => ?_, fun hat => ?_⟩
    · simp [hfree, hnone]
    · rw [hnone] at hi
      cases hi
    · rw [hidle] at hat
      cases hat
  | append_singleton schedule event ih =>
    rw [run_concat, records_concat]
    exact (ih.step (fresh_run ..) event).1

theorem selected_of_fill (authority : Authority σ) (hidle : scene.activities = [])
    (hfree : scene.client.slot.taken = false) (early late : List Event) {fill : Operation}
    (hfill : fill.isFill = true)
    (hholds : ∀ n < late.length, (scene.run authority (early ++ .start fill :: late.take n)).holds
      (scene.run authority early).activities.length = true) :
    (∃ stage, (scene.run authority (early ++ .start fill :: late)).activities[
        (scene.run authority early).activities.length]? = some ⟨fill, stage⟩) ∧
      (scene.run authority (early ++ .start fill :: late)).client.editor.selected =
        (scene.run authority early).client.editor.selected := by
  -- The fill holds the slot up to the last event but one, so that it is there when that comes.
  induction late using List.reverseRecOn with
  | nil =>
    have hguarded := guarded_run authority hidle hfree early
    rw [run_concat]
    refine ⟨?_, (hguarded.step (fresh_run ..) (.start fill)).2 _ ⟨fill, hfill, .inr ⟨rfl, rfl⟩⟩⟩
    exact (hguarded.started (fresh_run ..) fill).1.going
  | append_singleton late event ih =>
    have hguarded := guarded_run authority hidle hfree (early ++ .start fill :: late)
    have htake : ∀ n ≤ late.length, (late ++ [event]).take n = late.take n :=
      fun n hn => List.take_append_of_le_length hn
    obtain ⟨⟨stage, hat⟩, hsame⟩ := ih fun n hn => by
      rw [← htake n hn.le]
      exact hholds n (by rw [List.length_append]; exact hn.trans (Nat.lt_succ_self _))
    have hunder := hholds late.length (by simp)
    rw [htake _ le_rfl, List.take_length] at hunder
    rw [← List.cons_append, ← List.append_assoc, run_concat]
    obtain ⟨stage', hat', -⟩ := (changes authority _ event).forth hat
    have hfills : (scene.run authority (early ++ .start fill :: late)).FillsAt event
        (scene.run authority early).activities.length :=
      ⟨fill, hfill, .inl ⟨hunder, stage, hat⟩⟩
    exact ⟨⟨stage', hat'⟩, ((hguarded.step (fresh_run ..) event).2 _ hfills).trans hsame⟩

/-- The slot in every schedule, with any authority: at most one operation holds it, and it is taken
only while one does. While a fill holds it the selection stays, and the fibers go there until the
ports of another structure are asked for. What finds it taken ends at once, makes no call, and
changes nothing that the editor shows. -/
theorem slot_of_run (authority : Authority σ) (start : Scene σ) (hidle : start.activities = [])
    (hfree : start.client.slot.taken = false) (schedule : List Event) :
    let scene := start.run authority schedule
    (∀ i j, scene.holds i = true → scene.holds j = true → i = j) ∧
    (scene.client.slot.taken = true ↔ ∃ index, scene.holds index = true) ∧
    (∀ (early late : List Event) (fill : Operation),
      schedule = early ++ .start fill :: late → fill.isFill = true →
      (∀ n < late.length, (start.run authority (early ++ .start fill :: late.take n)).holds
        (start.run authority early).activities.length = true) →
      scene.client.editor.selected = (start.run authority early).client.editor.selected) ∧
    (∀ (index : Nat) (fill : Operation) (p : Placement)
        (resume : Except Failure Splice → Client → Progress Outcome),
      scene.activities[index]? = some ⟨fill, .sent (.place p) resume⟩ →
      fill.isFill = true → ¬Spilled (exchangesOf index (start.records authority schedule)) →
      scene.client.editor.structureId = some p.structureId) ∧
    (∀ operation : Operation, operation.isExclusive = true → scene.client.slot.taken = true →
      let refused := scene.step authority (.start operation)
      refused.authority = scene.authority ∧ refused.client.editor = scene.client.editor ∧
        refused.client.slot = scene.client.slot ∧
        ∃ outcome, refused.activities = scene.activities ++ [⟨operation, .ended outcome⟩]) := by
  intro scene
  have hguarded : scene.Guarded (start.records authority schedule) :=
    guarded_run authority hidle hfree schedule
  refine ⟨fun i j => hguarded.one, hguarded.taken, ?_, ?_, ?_⟩
  · rintro early late fill rfl hfill hholds
    exact (selected_of_fill authority hidle hfree early late hfill hholds).2
  · intro index fill p resume hat hfill hlocal
    obtain ⟨home, ⟨hasks, -⟩, hhome⟩ := hguarded.abides hat rfl
    exact hhome hfill _ ((hasks p rfl).resolve_right hlocal)
  · intro operation hexclusive htaken
    obtain ⟨left, outcome, hdone, heditor, hslot⟩ := refused_job hexclusive htaken
    simp only [step, hdone, Stage.ofProgress]
    exact ⟨trivial, heditor, hslot, outcome, rfl⟩

def smallFill : Operation := .dropBundle ⟨1, .a⟩
      ⟨⟨⟨3⟩⟩, "cable", 1, "blue", [Server.smallFiber 1, Server.smallFiber 2]⟩

def smallSwitch : Operation := .select { Server.smallTray with id := ⟨⟨7⟩⟩ }

theorem slot_of_small_fill :
    let late : List Event :=
      [.start smallSwitch, .serve 0, .start (.dropFiber ⟨3, .a⟩ ⟨Server.smallFiber 3, "cable"⟩),
        .deliver 0]
    let scene := Overlap.smallStart.run Server.answer (.start smallFill :: late)
    scene.holds 0 = true ∧ (∀ i j, scene.holds i = true → scene.holds j = true → i = j) ∧
      scene.client.slot.taken = true ∧
      scene.client.editor.selected = Overlap.smallStart.client.editor.selected ∧
      (scene.step Server.answer (.start smallSwitch)).client.editor = scene.client.editor := by
  intro late scene
  have hfree : Overlap.smallStart.client.slot.taken = false := by decide +kernel
  obtain ⟨hone, htaken, hselected, -, hrefused⟩ :=
    slot_of_run Server.answer Overlap.smallStart rfl hfree (.start smallFill :: late)
  have hholds : scene.holds 0 = true := by decide +kernel
  have htaken := htaken.2 ⟨0, hholds⟩
  have hselected := hselected [] late smallFill rfl rfl (by decide +kernel)
  exact ⟨hholds, hone, htaken, hselected, (hrefused smallSwitch rfl htaken).2.1⟩

end Scene

end CrossConnect
