import CrossConnect.Proofs.Client.Restoring
import CrossConnect.Proofs.Client.Terms

/-!
The editors that can come up. Operations change the editor by edits alone, so whatever operations
overlap, and whatever they are answered, each editor of a client is one that edits lead to from the
empty one.
-/
namespace CrossConnect

open Client

inductive Editor.Reached : Editor → Prop
  | empty : Reached {}
  | edited {editor : Editor} (ids : IdSource) (edit : Edit) (h : Reached editor) :
    Reached (editor.apply ids edit).1

theorem Editor.Reached.apply {c : Client} (h : c.editor.Reached) (edit : Edit) :
    (c.apply edit).editor.Reached :=
  .edited c.ids edit h

theorem Editor.Reached.inOrder {editor : Editor} (h : editor.Reached) : InOrder editor.rows := by
  induction h with
  | empty => exact .nil
  | edited ids edit _ ih =>
    simp only [Editor.apply]
    split
    · refine RowsRule.inOrder.shown_perform ih ?_
      cases edit with
      | load | replaceRows => exact .inl trivial
      | _ => trivial
    · exact ih

/-! ### Jobs -/

def Terms.byEdits : Terms where
  finds c := c.editor.Reached
  leaves _ left := left.editor.Reached

abbrev ByEdits {α : Type} (job : Job α) : Prop :=
  job.Preserves .byEdits fun _ _ c => c.editor.Reached

section jobs

variable {α : Type}

theorem byEdits_apply (edit : Edit) : ByEdits (Job.apply edit) :=
  Job.preserves_update fun _ _ _ h => h.apply edit

theorem byEdits_update {f : Client → Client} (hf : ∀ c, (f c).editor = c.editor) :
    ByEdits (Job.update f) :=
  Job.preserves_update fun _ _ c h => (hf c).symm ▸ h

theorem byEdits_report (notice : Notice) (value : α) :
    ByEdits (do Job.notify notice; return value) :=
  (byEdits_update fun _ => rfl).bind fun _ => Job.preserves_pure value

theorem byEdits_call (call : Call) : ByEdits (Attempt.call call).run :=
  fun _ _ _ h => Job.abides_call h trivial fun _ _ _ hfinds => hfinds

theorem byEdits_told {attempt : Attempt Unit} {success : Notice} {context : String}
    {value value' : α} (h : ByEdits attempt.run) :
    ByEdits (do
      match ← attempt.run with
      | .ok () => Job.notify success; return value
      | .error e => Job.notify (.ofFailure context e); return value') := by
  refine h.bind fun answer => ?_
  cases answer with
  | ok _ => exact byEdits_report _ _
  | error e => exact byEdits_report _ _

theorem byEdits_checkMerged (spot : PortSide) : ByEdits (checkMerged spot).run :=
  Job.preserves_client fun _ => Job.preserves_pure _

theorem byEdits_optimistically (id : StructureId) (edit : Edit) {remote : Attempt Settlement}
    (h : ByEdits remote.run) : ByEdits (optimistically id edit remote).run := by
  simp only [optimistically]
  refine Job.preserves_client fun c => (byEdits_apply edit).bind fun _ => h.bind fun answer => ?_
  cases answer with
  | ok settlement => exact (byEdits_apply _).bind fun _ => Job.preserves_pure _
  | error e => exact (byEdits_apply _).bind fun _ => Job.preserves_pure _

theorem byEdits_settleMerged (id : StructureId) (merged : Bool) (otherwise : Settlement) :
    ByEdits (settleMerged id merged otherwise).run := by
  cases merged with
  | true => exact (byEdits_call _).map
  | false => exact Job.preserves_pure _

theorem byEdits_assign (id : StructureId) (spot : PortSide) (fiber : LabelledFiber) :
    ByEdits (assign id spot fiber).run :=
  (byEdits_checkMerged spot).attempt fun _ => byEdits_optimistically id _ <|
    Job.Preserves.attempt (byEdits_call _) fun _ => byEdits_settleMerged id _ _

theorem byEdits_vacate (id : StructureId) (spot : PortSide) : ByEdits (vacate id spot).run :=
  (byEdits_checkMerged spot).attempt fun _ => byEdits_optimistically id _ <|
    Job.Preserves.attempt (byEdits_call _) fun _ => byEdits_settleMerged id _ _

theorem byEdits_dropFiber (spot : PortSide) (fiber : LabelledFiber) :
    ByEdits (dropFiber spot fiber) := by
  refine Job.preserves_client fun c => ?_
  split
  · exact Job.preserves_pure _
  · exact byEdits_told (byEdits_assign _ spot fiber)

theorem byEdits_clearPort (spot : PortSide) : ByEdits (clearPort spot) := by
  refine Job.preserves_client fun c => ?_
  split
  · exact Job.preserves_pure _
  · exact byEdits_told (byEdits_vacate _ spot)

theorem byEdits_moveFiber (source target : PortSide) (fiber : LabelledFiber) :
    ByEdits (moveFiber source target fiber) := by
  rw [moveFiber]
  split
  · exact Job.preserves_pure _
  · refine Job.preserves_client fun c => ?_
    split
    · exact Job.preserves_pure _
    · refine (byEdits_assign _ target fiber).bind fun answer => ?_
      cases answer with
      | error e => exact byEdits_report _ _
      | ok _ =>
        refine (byEdits_vacate _ source).bind fun answer => ?_
        cases answer with
        | ok _ => exact byEdits_report _ _
        | error e => exact byEdits_report _ _

/-! ### Fills and the selection -/

theorem byEdits_fillPorts (target : FillTarget) (side : Side) (ports : List PortNumber)
    (fibers : List LabelledFiber) (filled : List MergeGroupId) (pass : FillPass) :
    ByEdits (fillPorts target side ports fibers filled pass) := by
  induction ports generalizing fibers filled pass with
  | nil => exact Job.preserves_pure _
  | cons port ports ih =>
    cases fibers with
    | nil => exact Job.preserves_pure _
    | cons fiber fibers =>
      have hplace : ByEdits (placeOne target ⟨port, side⟩ fiber).run := by
        rw [placeOne]
        split
        · exact byEdits_assign _ _ fiber
        · exact Job.Preserves.attempt (byEdits_call _) fun _ => Job.preserves_pure _
      simp only [fillPorts]
      split
      · exact ih (fiber :: fibers) filled pass
      · refine hplace.bind fun answer => ?_
        cases answer with
        | ok _ => exact ih fibers _ _
        | error e => exact Job.preserves_pure _

theorem byEdits_fillLater (side : Side) (later : List Structure) (fibers : List LabelledFiber)
    (report : FillReport) : ByEdits (fillLater side later fibers report) := by
  induction later generalizing fibers report with
  | nil => exact Job.preserves_pure _
  | cons record later ih =>
    have htarget : ByEdits (remoteTarget record side).run := by
      rw [remoteTarget]
      split
      · exact Job.preserves_pure _
      · exact Job.Preserves.attempt (byEdits_call _) fun _ =>
          Job.Preserves.attempt (byEdits_call _) fun _ => Job.preserves_pure _
    simp only [fillLater]
    split
    · exact Job.preserves_pure _
    · refine htarget.bind fun answer => ?_
      cases answer with
      | error e => exact Job.preserves_pure _
      | ok target =>
        dsimp only
        split
        · exact Job.preserves_pure _
        · refine (byEdits_fillPorts target side _ fibers [] _).bind fun pass => ?_
          split
          · exact Job.preserves_pure _
          · exact ih _ _

theorem byEdits_fillCable (first : FillTarget) (later : List Structure) (side : Side)
    (fibers : List LabelledFiber) (report : FillReport) :
    ByEdits (fillCable first later side fibers report) := by
  refine (byEdits_fillPorts first side _ fibers [] _).bind fun pass => ?_
  split
  · exact Job.preserves_pure _
  · exact byEdits_fillLater side later _ _

theorem byEdits_finishFill (kind : FillKind) (failure : Option Failure) (report : FillReport) :
    ByEdits (finishFill kind failure report) := by
  simp only [finishFill]
  split
  all_goals
    split
    all_goals exact byEdits_report _ _

theorem byEdits_exclusively {refused job : Job α} (hrefused : ByEdits refused) (h : ByEdits job) :
    ByEdits (exclusively refused job) := by
  have hslot : ∀ slot : Client → Slot, ByEdits (Job.update fun c => { c with slot := slot c }) :=
    fun _ => byEdits_update fun _ => rfl
  refine Job.preserves_client fun c => ?_
  split
  · exact hrefused
  · exact (hslot _).bind fun _ => h.bind fun _ => (hslot _).bind fun _ => Job.preserves_pure _

theorem byEdits_dropBundle (start : PortSide) (bundle : Bundle) :
    ByEdits (dropBundle start bundle) := by
  refine byEdits_exclusively (byEdits_report _ _) (Job.preserves_client fun c => ?_)
  split
  · exact byEdits_report _ _
  · split
    · exact byEdits_report _ _
    · split
      · exact byEdits_report _ _
      · exact (byEdits_fillPorts _ _ _ _ [] _).bind fun _ => byEdits_finishFill _ _ _

theorem byEdits_cableFibers (cable : Cable) : ByEdits (cableFibers cable).run := by
  rw [cableFibers]
  split
  · exact Job.Preserves.attempt (byEdits_call _) fun _ => Job.preserves_pure _
  · exact Job.Preserves.attempt (Job.preserves_pure _) fun _ => Job.preserves_pure _

theorem byEdits_dropCable (start : PortSide) (cable : Cable) (structures : List Structure) :
    ByEdits (dropCable start cable structures) := by
  refine byEdits_exclusively (byEdits_report _ _) (Job.preserves_client fun c => ?_)
  dsimp only
  split
  · split
    · exact byEdits_report _ _
    · refine (byEdits_cableFibers cable).bind fun answer => ?_
      cases answer with
      | error e => exact byEdits_finishFill _ _ _
      | ok fibers =>
        dsimp only
        split
        · exact byEdits_report _ _
        · exact (byEdits_fillCable _ _ _ _ _).bind fun _ => byEdits_finishFill _ _ _
  · exact byEdits_report _ _

theorem byEdits_select (record : Structure) : ByEdits (select record) := by
  have hfetch : ByEdits (fetch record).run := by
    rw [fetch]
    split
    · exact Job.preserves_pure _
    · exact Job.Preserves.attempt (byEdits_call _) fun _ =>
        Job.Preserves.attempt (byEdits_call _) fun _ => Job.preserves_pure _
  refine byEdits_exclusively (byEdits_report _ _) (hfetch.bind fun answer => ?_)
  cases answer with
  | ok fetched => exact (byEdits_apply _).bind fun _ => Job.preserves_pure _
  | error e => exact byEdits_report _ _

theorem byEdits_deselect : ByEdits deselect :=
  byEdits_exclusively (byEdits_report _ _) ((byEdits_apply _).bind fun _ => Job.preserves_pure _)

/-! ### Merge groups -/

theorem byEdits_relisted (write : Call) (id : StructureId) :
    ByEdits (Attempt.call write >>= fun _ => Attempt.call (.rowsOf id)).run :=
  Job.Preserves.attempt (byEdits_call _) fun _ => byEdits_call _

theorem byEdits_mergeSelected : ByEdits mergeSelected := by
  refine Job.preserves_client fun c => ?_
  dsimp only
  split
  · exact byEdits_report _ _
  · refine (byEdits_relisted _ _).bind fun answer => ?_
    cases answer with
    | ok rows =>
      exact (byEdits_apply _).bind fun _ => (byEdits_apply _).bind fun _ => byEdits_report _ _
    | error e => exact byEdits_report _ _

theorem byEdits_unmerge (group : MergeGroupId) (ports : Option (List PortNumber)) :
    ByEdits (unmerge group ports) := by
  refine Job.preserves_client fun c => ?_
  dsimp only
  split
  · exact Job.preserves_pure _
  · split
    · exact Job.preserves_pure _
    · refine (byEdits_relisted _ _).bind fun answer => ?_
      cases answer with
      | ok rows => exact (byEdits_apply _).bind fun _ => byEdits_report _ _
      | error e => exact byEdits_report _ _

theorem byEdits_fillGroup (id : StructureId) (group : MergeGroupId) (ports : List PortNumber)
    (spot : PortSide) (fibers : List Fiber) (cableName : String) :
    ByEdits (fillGroup id group ports spot fibers cableName) := by
  refine byEdits_told ?_
  rw [uploadToGroup]
  split
  · exact Job.preserves_pure _
  · exact byEdits_optimistically id _ <|
      Job.Preserves.attempt (byEdits_call _) fun _ => (byEdits_call _).map

theorem byEdits_dropOnGroup (group : MergeGroupId) (side : Side) (drop : Drop) :
    ByEdits (dropOnGroup group side drop) := by
  refine Job.preserves_client fun c => ?_
  dsimp only
  split
  · exact Job.preserves_pure _
  · split
    · exact byEdits_report _ _
    · cases drop with
      | fiber fiber => exact byEdits_dropFiber _ fiber
      | bundle bundle => exact byEdits_fillGroup _ _ _ _ _ _
      | cable cable =>
        refine (byEdits_cableFibers cable).bind fun answer => ?_
        cases answer with
        | ok fibers => exact byEdits_fillGroup _ _ _ _ _ _
        | error e => exact byEdits_report _ _
      | mounted _ | component _ => exact byEdits_report _ _

theorem byEdits_dropOnPort (spot : PortSide) (drop : Drop) (structures : List Structure) :
    ByEdits (dropOnPort spot drop structures) := by
  refine Job.preserves_client fun c => ?_
  split
  · exact Job.preserves_pure _
  · cases drop with
    | fiber fiber => exact (byEdits_dropFiber spot fiber).bind fun _ => Job.preserves_pure _
    | bundle bundle => exact (byEdits_dropBundle spot bundle).bind fun _ => Job.preserves_pure _
    | cable cable =>
      exact (byEdits_dropCable spot cable structures).bind fun _ => Job.preserves_pure _
    | mounted _ | component _ => exact byEdits_report _ _

theorem byEdits_job (operation : Operation) : ByEdits operation.job := by
  have hmap : ∀ {β : Type} {job : Job β} {f : β → Outcome}, ByEdits job → ByEdits (f <$> job) :=
    fun h => by
      rw [map_eq_pure_bind]
      exact h.bind fun _ => Job.preserves_pure _
  cases operation with
  | select record => exact hmap (byEdits_select record)
  | deselect => exact hmap byEdits_deselect
  | dropFiber spot fiber => exact hmap (byEdits_dropFiber spot fiber)
  | clearPort spot => exact hmap (byEdits_clearPort spot)
  | moveFiber source target fiber => exact hmap (byEdits_moveFiber source target fiber)
  | dropBundle start bundle => exact hmap (byEdits_dropBundle start bundle)
  | dropCable start cable structures => exact hmap (byEdits_dropCable start cable structures)
  | dropOnPort spot drop structures => exact hmap (byEdits_dropOnPort spot drop structures)
  | toggleMergeMode =>
    exact hmap ((byEdits_apply _).bind fun _ => Job.preserves_client fun _ => Job.preserves_pure _)
  | togglePort spot =>
    exact hmap ((byEdits_apply _).bind fun _ => Job.preserves_client fun _ => Job.preserves_pure _)
  | mergeSelected => exact hmap byEdits_mergeSelected
  | unmerge group ports => exact hmap (byEdits_unmerge group ports)
  | dropOnGroup group side drop => exact hmap (byEdits_dropOnGroup group side drop)

end jobs

/-! ### Schedules -/

namespace Scene

variable {σ : Type} {authority : Authority σ} {scene : Scene σ}

def LeavesReached (_ : List Exchange) (_ left : Client) (_ : Outcome) : Prop :=
  left.editor.Reached

structure Reached (scene : Scene σ) : Prop where
  editor : scene.client.editor.Reached
  stages : ∀ a ∈ scene.activities, ∃ past, a.stage.Abides .byEdits LeavesReached past

theorem reached_ofProgress {p : Progress Outcome} {past : List Exchange} {found : Client}
    (h : p.Abides .byEdits LeavesReached past found) : (Stage.ofProgress p).2.editor.Reached := by
  cases p with
  | done left outcome => exact h
  | waits left call resume => exact h.1

theorem Reached.advance (h : scene.Reached) {index : Nat} {stage : Stage}
    (hstage : ∃ past, stage.Abides .byEdits LeavesReached past) :
    (scene.advance index stage).Reached := by
  refine ⟨h.editor, fun a hmem => ?_⟩
  obtain ⟨other, hother⟩ := List.mem_iff_getElem?.1 hmem
  rw [getElem?_advance] at hother
  split at hother
  · obtain ⟨a', -, rfl⟩ := Option.map_eq_some_iff.1 hother
    exact hstage
  · exact h.stages a (List.mem_of_getElem? hother)

theorem Reached.stage (h : scene.Reached) {index : Nat} {stage : Stage}
    (hstage : scene.stage? index = some stage) :
    ∃ past, stage.Abides .byEdits LeavesReached past := by
  obtain ⟨operation, hat⟩ := stage?_eq_some hstage
  exact h.stages _ (List.mem_of_getElem? hat)

theorem Reached.step (h : scene.Reached) (event : Event) :
    (scene.step authority event).Reached := by
  have hchanges := changes authority scene event
  generalize scene.step authority event = scene' at hchanges
  generalize scene.record? authority event = record at hchanges
  cases hchanges with
  | idle => exact h
  | started operation =>
    have hjob : (operation.job scene.client).Abides .byEdits LeavesReached [] scene.client :=
      byEdits_job operation [] scene.client scene.client h.editor
    refine ⟨reached_ofProgress hjob, fun a hmem => ?_⟩
    rcases List.mem_append.1 hmem with hmem | hmem
    · exact h.stages a hmem
    · obtain rfl := List.mem_singleton.1 hmem
      exact ⟨[], (Stage.abides_ofProgress hjob).1⟩
  | answered answer s sent =>
    obtain ⟨past, -, hnext⟩ := h.stage sent
    have hserved : { scene with authority := s }.Reached := ⟨h.editor, h.stages⟩
    exact hserved.advance ⟨_, hnext answer trivial⟩
  | @resumed index call answer resume told =>
    obtain ⟨past, hnext⟩ := h.stage told
    have hresumed := hnext scene.client h.editor
    have hleft :
        { scene with client := (Stage.ofProgress (resume answer scene.client)).2 }.Reached :=
      ⟨reached_ofProgress hresumed, h.stages⟩
    exact hleft.advance ⟨past, (Stage.abides_ofProgress hresumed).1⟩

theorem Reached.run (h : scene.Reached) (schedule : List Event) :
    (scene.run authority schedule).Reached := by
  induction schedule generalizing scene with
  | nil => exact h
  | cons event schedule ih => exact ih (h.step event)

theorem editor_reached (authority : Authority σ) (settings : ClientSettings) (ids : IdSource)
    (s : σ) (schedule : List Event) :
    (run authority { client := .ofSettings settings ids, authority := s }
      schedule).client.editor.Reached :=
  have hfresh : Reached { client := .ofSettings settings ids, authority := s } :=
    ⟨.empty, fun _ hmem => absurd hmem List.not_mem_nil⟩
  (hfresh.run schedule).editor

end Scene
end CrossConnect
