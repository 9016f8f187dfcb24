import CrossConnect.Proofs.Client.InStep

/-!
Each operation of the client keeps step with the authority, and so does every run of operations.
-/
namespace CrossConnect

open Client

section operations

variable {loses : List Exchange → Call → Option Failure}
  {structures : Table StructureId Structure} {selected : Option SelectedStructure} {α : Type}

theorem keeps_selected {none : Job α} {some : StructureId → Job α}
    (hnone : Keeps loses structures selected none)
    (hsome : ∀ found, selected = .some found →
      Keeps loses structures selected (some found.record.id)) :
    Keeps loses structures selected (do
      match (← Job.client).editor.structureId with
      | .none => none
      | .some id => some id) := by
  refine keeps_client fun c hselected => ?_
  simp only [Editor.structureId]
  rw [hselected]
  cases selected with
  | none => exact hnone
  | some found => exact hsome found rfl

theorem keeps_dropFiber (spot : PortSide) (fiber : LabelledFiber) :
    Keeps loses structures selected (dropFiber spot fiber) := by
  refine keeps_selected (keeps_pure _) ?_
  rintro found rfl
  refine (keeps_assign spot fiber).bind fun answer => ?_
  cases answer with
  | ok _ => exact keeps_report _ _
  | error _ => exact keeps_report _ _

theorem keeps_clearPort (spot : PortSide) : Keeps loses structures selected (clearPort spot) := by
  refine keeps_selected (keeps_pure _) ?_
  rintro found rfl
  refine (keeps_vacate spot).bind fun answer => ?_
  cases answer with
  | ok _ => exact keeps_report _ _
  | error _ => exact keeps_report _ _

theorem keeps_moveFiber (source target : PortSide) (fiber : LabelledFiber) :
    Keeps loses structures selected (moveFiber source target fiber) := by
  simp only [moveFiber]
  split
  · exact keeps_pure _
  · refine keeps_selected (keeps_pure _) ?_
    rintro found rfl
    refine (keeps_assign target fiber).bind fun answer => ?_
    cases answer with
    | error _ => exact keeps_report _ _
    | ok _ =>
      refine (keeps_vacate source).bind fun answer => ?_
      cases answer with
      | ok _ => exact keeps_report _ _
      | error _ => exact keeps_report _ _

/-! ### Merge groups -/

theorem keeps_apply {edit : Edit} (hscope : edit.scope = none)
    (hrows : ∀ editor ids, (Editor.perform editor ids edit).1.rows = editor.rows)
    (hselected : ∀ editor ids, (Editor.perform editor ids edit).1.selected = editor.selected) :
    Keeps loses structures selected (Job.apply edit) := by
  have happly : ∀ c : Client, (c.apply edit).editor = (c.editor.perform c.ids edit).1 := fun c => by
    simp only [Client.apply, Editor.apply]
    rw [hscope, Option.all_none, if_pos rfl]
  refine keeps_update (fun c => ?_) fun c => ?_
  · rw [happly, hrows]
  · rw [happly, hselected]

theorem keeps_clearSelection : Keeps loses structures selected (Job.apply .clearSelection) :=
  keeps_apply rfl (fun _ _ => rfl) fun _ _ => rfl

theorem keeps_toggleMergeMode : Keeps loses structures selected toggleMergeMode :=
  (keeps_apply rfl (fun _ _ => rfl) fun _ _ => rfl).bind fun _ => keeps_client fun _ _ =>
    keeps_pure _

theorem keeps_togglePort (spot : PortSide) : Keeps loses structures selected (togglePort spot) := by
  refine Keeps.bind (keeps_apply rfl ?_ ?_) fun _ => keeps_client fun _ _ => keeps_pure _
  · intro editor ids
    simp only [Editor.perform]
    split <;> rfl
  · intro editor ids
    simp only [Editor.perform]
    split <;> rfl

theorem keeps_reload {found : SelectedStructure} (write : Call) (hwrite : write.isWrite = true)
    {next : Except Failure (List Splice) → Job α}
    (hsettled : ∀ rows, ∃ rest : Job α,
      next (.ok rows) = (Job.apply (.replaceRows found.record.id rows) >>= fun _ => rest) ∧
        Keeps loses structures (some found) rest)
    (hrefused : ∀ e, Keeps loses structures (some found) (next (.error e))) :
    Keeps loses structures (some found)
      ((Attempt.call write >>= fun _ => Attempt.call (.rowsOf found.record.id)).run >>= next) := by
  intro c line h
  have hback := backwardClosed_settled loses
  rw [Job.ends_bind hback, Job.ends_attempt hback]
  refine ends_attempt_call write h.inStep.sound ?_ ?_
  · intro e line' hsame hsound
    exact hrefused e c line' (h.of_same hsame hsound)
  · intro a line' hperform hsound hwrote
    refine ends_refetch hsound (hwrote hwrite) fun line'' hsame hsound' => ?_
    obtain ⟨rest, hrest, hkeeps⟩ := hsettled (line'.1.registry.listing found.record.id)
    rw [hrest, Job.ends_bind_apply]
    refine hkeeps _ _ ?_
    rw [← hsame]
    refine Aligned.replaceRows h.selected hsound' ?_
    rw [hsame, (Registry.frame_perform hperform).structures, h.structures]

theorem checkSelection_eq_ok_iff {editor : Editor} {limit : Option Nat} {id : StructureId}
    {side : Side} {ports : List PortNumber} : checkSelection editor limit = .ok (id, side, ports) ↔
    editor.structureId = some id ∧ editor.selection ≠ [] ∧
      (∀ spot ∈ editor.selection, spot.side = side) ∧
      PortRun.validate (editor.selection.map (·.port)) limit = .ok ports ∧
      requireUnmerged editor side ports = .ok () := by
  rw [checkSelection]
  cases hid : editor.structureId with
  | none => simp
  | some id' =>
    cases hselection : editor.selection with
    | nil => simp
    | cons first rest =>
      dsimp only [List.head?_cons]
      split
      next hmixed =>
        simp only [bind, Except.bind, reduceCtorEq, false_iff]
        rintro ⟨-, -, hside, -⟩
        obtain ⟨spot, hspot, hother⟩ := List.any_eq_true.1 hmixed
        exact of_decide_eq_true hother
          ((hside spot hspot).trans (hside first List.mem_cons_self).symm)
      next hsame =>
        simp only [bind_eq_ok]
        constructor
        · rintro ⟨sorted, hsorted, ⟨⟩, hfree, heq⟩
          obtain ⟨rfl, rfl, rfl⟩ : id' = id ∧ first.side = side ∧ sorted = ports := by
            simpa using Except.ok.inj heq
          exact ⟨rfl, List.cons_ne_nil _ _, by simpa using hsame, hsorted, hfree⟩
        · rintro ⟨hid, -, hside, hsorted, hfree⟩
          obtain rfl := Option.some.inj hid
          obtain rfl := hside first List.mem_cons_self
          exact ⟨ports, hsorted, (), hfree, rfl⟩

theorem checkSelection_eq_ok {editor : Editor} {limit : Option Nat} {id : StructureId} {side : Side}
    {ports : List PortNumber} (h : checkSelection editor limit = .ok (id, side, ports)) :
    editor.structureId = some id :=
  (checkSelection_eq_ok_iff.1 h).1

theorem keeps_mergeSelected : Keeps loses structures selected mergeSelected := by
  refine keeps_client fun c hselected => ?_
  dsimp only
  split
  next e _ => exact keeps_report _ _
  next id side ports hcheck =>
    have hid := checkSelection_eq_ok hcheck
    simp only [Editor.structureId] at hid
    rw [hselected] at hid
    obtain ⟨found, rfl, rfl⟩ := Option.map_eq_some_iff.1 hid
    refine keeps_reload (.merge _ ports side) rfl (fun rows => ⟨_, rfl, ?_⟩) fun e => ?_
    · exact keeps_clearSelection.bind fun _ => keeps_report _ _
    · exact keeps_report _ _

theorem keeps_unmerge (group : MergeGroupId) (ports : Option (List PortNumber)) :
    Keeps loses structures selected (unmerge group ports) := by
  refine keeps_client fun c hselected => ?_
  dsimp only
  simp only [Editor.structureId]
  rw [hselected]
  cases selected with
  | none => exact keeps_pure _
  | some found =>
    dsimp only [Option.map_some]
    split
    · exact keeps_pure _
    · refine keeps_reload (.unmerge group _) rfl (fun rows => ⟨_, rfl, ?_⟩) fun e => ?_
      · exact keeps_report _ _
      · exact keeps_report _ _

theorem keeps_uploadToGroup {found : SelectedStructure} (group : MergeGroupId) (spot : PortSide)
    (fibers : List Fiber) (cableName : String) :
    Keeps loses structures (some found)
      (uploadToGroup found.record.id group spot fibers cableName).run := by
  simp only [uploadToGroup]
  split
  · exact keeps_pure _
  next first _ =>
    intro c line h
    refine ends_optimistically h rfl (ends_written h rfl ?_)
    intro a line' _ hsound hstructures hwrote
    exact ends_listing (h.edited _ rfl) hsound hstructures hwrote

theorem keeps_fillGroup {found : SelectedStructure} (group : MergeGroupId) (ports : List PortNumber)
    (spot : PortSide) (fibers : List Fiber) (cableName : String) :
    Keeps loses structures (some found)
      (fillGroup found.record.id group ports spot fibers cableName) := by
  refine (keeps_uploadToGroup group spot _ cableName).bind fun answer => ?_
  cases answer with
  | ok _ => exact keeps_report _ _
  | error _ => exact keeps_report _ _

theorem keeps_cableFibers (cable : Cable) :
    Keeps loses structures selected (cableFibers cable).run := by
  simp only [cableFibers]
  split
  · exact (keeps_read rfl).attempt fun _ => keeps_pure _
  · exact Keeps.attempt (keeps_pure _) fun _ => keeps_pure _

theorem keeps_dropOnGroup (group : MergeGroupId) (side : Side) (drop : Drop) :
    Keeps loses structures selected (dropOnGroup group side drop) := by
  refine keeps_client fun c hselected => ?_
  dsimp only
  simp only [Editor.structureId]
  rw [hselected]
  cases selected with
  | none => exact keeps_pure _
  | some found =>
    dsimp only [Option.map_some]
    split
    · exact keeps_report _ _
    · cases drop with
      | fiber fiber => exact keeps_dropFiber _ fiber
      | bundle bundle => exact keeps_fillGroup _ _ _ _ _
      | cable cable =>
        refine (keeps_cableFibers cable).bind fun answer => ?_
        cases answer with
        | ok fibers => exact keeps_fillGroup _ _ _ _ _
        | error e => exact keeps_report _ _
      | mounted _ => exact keeps_report _ _
      | component _ => exact keeps_report _ _

/-! ### Fills -/

def FillTarget.Fits (target : FillTarget) (found : SelectedStructure) : Prop :=
  target.inEditor = decide (target.structureId = found.record.id)

theorem localTarget_eq_some {editor : Editor} {start : PortSide} {target : FillTarget}
    {found : SelectedStructure} (hselected : editor.selected = some found)
    (h : localTarget editor start = some target) : target.Fits found := by
  simp only [localTarget, Editor.structureId] at h
  rw [hselected] at h
  obtain rfl := Option.some.inj h
  exact (decide_eq_true rfl).symm

theorem keeps_placeElsewhere {found : SelectedStructure} {placement : Placement}
    (hother : placement.structureId ≠ found.record.id) :
    Keeps loses structures (some found) (Attempt.call (.place placement)).run := by
  intro c line h
  refine ends_attempt_call _ h.inStep.sound ?_ ?_
  · intro e line' hsame hsound
    exact h.of_same hsame hsound
  · intro row line' hplace hsound _
    refine ⟨⟨hsound, ?_⟩, ?_, h.selected⟩
    · rw [h.rows, h.structureId]
      exact (h.wellFormed.listing_place_of_ne hplace (Ne.symm hother)).symm
    · rw [(Registry.frame_place hplace).structures, h.structures]

theorem keeps_placeOne {found : SelectedStructure} {target : FillTarget} (hfits : target.Fits found)
    (spot : PortSide) (fiber : LabelledFiber) :
    Keeps loses structures (some found) (placeOne target spot fiber).run := by
  simp only [placeOne]
  simp only [FillTarget.Fits] at hfits
  split
  next hin =>
    rw [hin] at hfits
    rw [of_decide_eq_true hfits.symm]
    exact keeps_assign spot fiber
  next hout =>
    rw [Bool.not_eq_true] at hout
    rw [hout] at hfits
    exact (keeps_placeElsewhere (of_decide_eq_false hfits.symm)).attempt fun _ => keeps_pure _

theorem keeps_fillPorts {found : SelectedStructure} {target : FillTarget}
    (hfits : target.Fits found) (side : Side) (ports : List PortNumber)
    (fibers : List LabelledFiber) (filled : List MergeGroupId) (pass : FillPass) :
    Keeps loses structures (some found) (fillPorts target side ports fibers filled pass) := by
  induction ports generalizing fibers filled pass with
  | nil => exact keeps_pure _
  | cons port ports ih =>
    cases fibers with
    | nil => exact keeps_pure _
    | cons fiber fibers =>
      simp only [fillPorts]
      split
      · exact ih (fiber :: fibers) filled pass
      · refine (keeps_placeOne hfits ⟨port, side⟩ fiber).bind fun answer => ?_
        cases answer with
        | ok _ => exact ih fibers _ _
        | error e => exact keeps_pure _

theorem mem_laterStructures {settings : ClientSettings} {record other : Structure}
    {records : List Structure} (h : other ∈ laterStructures settings record records) :
    other.exposesPorts = true ∧ other.id ≠ record.id := by
  have hlater :
      ∀ {l : List Structure}, other ∈ sortBy (fun s t => decide (s.slotStart ≤ t.slotStart))
      (l.filter fun s => s.exposesPorts && decide (s.id ≠ record.id) &&
        decide (record.slotStart < s.slotStart)) →
      other.exposesPorts = true ∧ other.id ≠ record.id := by
    intro l hmem
    rw [mem_sortBy, List.mem_filter] at hmem
    simp_all
  rw [laterStructures] at h
  split at h
  · dsimp only at h
    split at h
    · exact hlater (List.mem_of_mem_take h)
    · exact hlater h
  · cases h

theorem ends_remoteTarget {found : SelectedStructure} {record : Structure} {side : Side}
    {post : Except Failure FillTarget → Client → Server × List Exchange → Prop}
    {c : Client} {line : Server × List Exchange} (h : Aligned structures (some found) c line)
    (herror : ∀ e c line, Aligned structures (some found) c line → post (.error e) c line)
    (hok : ∀ target c line, target.structureId = record.id → target.inEditor = false →
      Aligned structures (some found) c line → post (.ok target) c line) :
    Job.Ends (Authority.lossy loses Server.answer) Settled (remoteTarget record side).run post c
      line := by
  have hback := backwardClosed_settled loses
  simp only [remoteTarget]
  split
  · exact fun _ => herror _ c line h
  next typeId _ =>
    rw [Job.ends_attempt hback]
    refine (keeps_read rfl c line h).mono ?_
    rintro (e | ports) c line - h
    · exact herror e c line h
    · dsimp only
      rw [Job.ends_attempt hback]
      refine (keeps_read rfl c line h).mono ?_
      rintro (e | rows) c line - h
      · exact herror e c line h
      · exact fun _ => hok _ c line rfl rfl h

theorem keeps_fillLater {found : SelectedStructure} (side : Side) (later : List Structure)
    (hlater : ∀ record ∈ later, record.id ≠ found.record.id) (fibers : List LabelledFiber)
    (report : FillReport) :
    Keeps loses structures (some found) (fillLater side later fibers report) := by
  induction later generalizing fibers report with
  | nil => exact keeps_pure _
  | cons record later ih =>
    simp only [fillLater]
    split
    · exact keeps_pure _
    · intro c line h
      rw [Job.ends_bind (backwardClosed_settled loses)]
      refine ends_remoteTarget h (fun _ _ _ h _ => h) fun target c line hid hout h => ?_
      have hne := hlater record List.mem_cons_self
      have hfits : target.Fits found := by
        simp only [FillTarget.Fits]
        rw [hout, hid, decide_eq_false hne]
      dsimp only
      split
      · exact fun _ => h
      · refine Keeps.bind (keeps_fillPorts hfits side _ fibers [] _) (fun pass => ?_) c line h
        split
        · exact keeps_pure _
        · exact ih (fun record hmem => hlater record (List.mem_cons_of_mem _ hmem)) _ _

theorem keeps_fillCable {found : SelectedStructure} {first : FillTarget} (hfits : first.Fits found)
    (later : List Structure) (hlater : ∀ record ∈ later, record.id ≠ found.record.id) (side : Side)
    (fibers : List LabelledFiber) (report : FillReport) :
    Keeps loses structures (some found) (fillCable first later side fibers report) := by
  refine (keeps_fillPorts hfits side _ fibers [] _).bind fun pass => ?_
  split
  · exact keeps_pure _
  · exact keeps_fillLater side later hlater _ _

theorem keeps_finishFill (kind : FillKind) (failure : Option Failure) (report : FillReport) :
    Keeps loses structures selected (finishFill kind failure report) := by
  simp only [finishFill]
  split
  all_goals
    split
    all_goals exact keeps_report _ _

/-! ### Work that holds the slot -/

theorem ends_exclusively {refused job : Job α} {c : Client} {line : Server × List Exchange}
    {post : Client → Server × List Exchange → Prop}
    (hpost : ∀ c c' line, c'.editor = c.editor → post c line → post c' line)
    (hrefused : Job.Ends (Authority.lossy loses Server.answer) Settled refused
      (fun _ => post) c line)
    (hjob : ∀ c', c'.editor = c.editor →
      Job.Ends (Authority.lossy loses Server.answer) Settled job (fun _ => post) c' line) :
    Job.Ends (Authority.lossy loses Server.answer) Settled (exclusively refused job)
      (fun _ => post) c line := by
  simp only [exclusively]
  rw [Job.ends_bind_client]
  split
  · exact hrefused
  next slot _ =>
    rw [Job.ends_bind_update, Job.ends_bind (backwardClosed_settled loses)]
    refine (hjob { c with slot } rfl).mono fun value c line _ hvalue => ?_
    rw [Job.ends_bind_update]
    exact fun _ => hpost c _ line rfl hvalue

theorem keeps_exclusively {refused job : Job α} (hrefused : Keeps loses structures selected refused)
    (hjob : Keeps loses structures selected job) :
    Keeps loses structures selected (exclusively refused job) := by
  intro c line h
  have hpost : ∀ (c c' : Client) line, c'.editor = c.editor →
      Aligned structures selected c line → Aligned structures selected c' line :=
    fun c c' line heditor h => h.of_editor (by rw [heditor]) (by rw [heditor])
  exact ends_exclusively hpost (hrefused c line h) fun c' heditor =>
    hjob c' line (hpost c c' line heditor h)

theorem keeps_rejectFill (reason : String) : Keeps loses structures selected (rejectFill reason) :=
  keeps_report _ _

theorem keeps_dropBundle (start : PortSide) (bundle : Bundle) :
    Keeps loses structures selected (dropBundle start bundle) := by
  refine keeps_exclusively (keeps_rejectFill _) (keeps_client fun c hselected => ?_)
  split
  · exact keeps_rejectFill _
  next target htarget =>
    split
    · exact keeps_rejectFill _
    · split
      · exact keeps_rejectFill _
      · cases selected with
        | none => simp [localTarget, Editor.structureId, hselected] at htarget
        | some found =>
          have hfits := localTarget_eq_some hselected htarget
          exact (keeps_fillPorts hfits _ _ _ _ _).bind fun pass => keeps_finishFill _ _ _

theorem keeps_dropCable (start : PortSide) (cable : Cable) (records : List Structure) :
    Keeps loses structures selected (dropCable start cable records) := by
  refine keeps_exclusively (keeps_rejectFill _) (keeps_client fun c hselected => ?_)
  dsimp only
  split
  next found target hfound htarget =>
    obtain rfl := hselected.symm.trans hfound
    have hfits := localTarget_eq_some hfound htarget
    split
    · exact keeps_rejectFill _
    · refine (keeps_cableFibers cable).bind fun answer => ?_
      cases answer with
      | error e => exact keeps_finishFill _ _ _
      | ok fibers =>
        dsimp only
        split
        · exact keeps_rejectFill _
        · refine (keeps_fillCable hfits _ ?_ _ _ _).bind fun result => keeps_finishFill _ _ _
          exact fun record hmem => (mem_laterStructures hmem).2
  · exact keeps_rejectFill _

theorem keeps_dropOnPort (spot : PortSide) (drop : Drop) (records : List Structure) :
    Keeps loses structures selected (dropOnPort spot drop records) := by
  refine keeps_client fun c _ => ?_
  split
  · exact keeps_pure _
  · cases drop with
    | fiber fiber => exact (keeps_dropFiber spot fiber).bind fun _ => keeps_pure _
    | bundle bundle => exact (keeps_dropBundle spot bundle).bind fun _ => keeps_pure _
    | cable cable => exact (keeps_dropCable spot cable records).bind fun _ => keeps_pure _
    | mounted _ => exact keeps_report _ _
    | component _ => exact keeps_report _ _

end operations

/-! ### Selections -/

section selections

variable {loses : List Exchange → Call → Option Failure}
  {structures : Table StructureId Structure} {α : Type}

def InStepWith (structures : Table StructureId Structure) (c : Client)
    (line : Server × List Exchange) : Prop :=
  ∃ selected, Aligned structures selected c line

theorem Keeps.inStepWith {job : Job α} {c : Client} {line : Server × List Exchange}
    (hjob : ∀ selected, Keeps loses structures selected job) (h : InStepWith structures c line) :
    Job.Ends (Authority.lossy loses Server.answer) Settled job
      (fun _ => InStepWith structures) c line := by
  obtain ⟨selected, h⟩ := h
  exact (hjob selected c line h).mono fun _ _ _ _ h => ⟨selected, h⟩

theorem InStepWith.of_editor {c c' : Client} {line : Server × List Exchange}
    (heditor : c'.editor = c.editor) (h : InStepWith structures c line) :
    InStepWith structures c' line := by
  obtain ⟨selected, h⟩ := h
  exact ⟨selected, h.of_editor (by rw [heditor]) (by rw [heditor])⟩

theorem listing_of_no_componentType {r : Registry} {limits : Limits} (h : r.WellFormed limits)
    {record : Structure} (hknown : r.structures.find? record.id = some record)
    (hnone : record.componentType = none) : r.listing record.id = [] := by
  refine List.eq_nil_iff_forall_not_mem.2 fun row hmem => ?_
  obtain ⟨port, hrow⟩ := Registry.mem_listing_iff.1 hmem
  have hvacant : ∀ side, (row.endpoint side).isVacant = true := by
    intro side
    by_contra hfilled
    rw [Bool.not_eq_true] at hfilled
    have hat : r.endpoint record.id ⟨port, side⟩ = row.endpoint side :=
      Registry.endpoint_of_row hrow
    have hspot : (r.endpoint record.id ⟨port, side⟩).isVacant = false := hat ▸ hfilled
    obtain ⟨found, typeId, -, hfound, htype, -⟩ := h.port_of_filled hspot
    obtain rfl := Option.some.inj (hknown.symm.trans hfound)
    rw [hnone] at htype
    cases htype
  have := h.row_filled hrow
  rw [Splice.isEmpty_iff.2 hvacant] at this
  cases this

theorem InStep.load {record : Structure} {ports : List Port} {c : Client} {s : Server}
    (hsound : s.Sound) :
    InStep (c.apply (.load record ports (s.registry.listing record.id))) s :=
  ⟨hsound, sortRows_eq_self (Registry.ascends_listing hsound.wellFormed.rowsAt _)⟩

theorem inStepWith_select {record : Structure} (hknown : structures.find? record.id = some record)
    {c : Client} {line : Server × List Exchange} (h : InStepWith structures c line) :
    Job.Ends (Authority.lossy loses Server.answer) Settled (select record)
      (fun _ => InStepWith structures) c line := by
  have hback := backwardClosed_settled loses
  refine ends_exclusively (fun c c' line heditor h => h.of_editor heditor)
    (Keeps.inStepWith (fun _ => keeps_report _ _) h)
    fun c' heditor => ?_
  obtain ⟨selected, h⟩ := h.of_editor heditor
  rw [Job.ends_bind hback]
  simp only [fetch]
  split
  next hnone =>
    intro _
    dsimp only
    rw [Job.ends_bind_apply]
    intro _
    rw [← listing_of_no_componentType h.wellFormed (h.structures ▸ hknown) hnone]
    exact ⟨_, .load h.inStep.sound, h.structures, rfl⟩
  next typeId _ =>
    rw [Job.ends_attempt hback]
    refine (keeps_read rfl c' line h).mono ?_
    rintro (e | ports) c line - h
    · exact Keeps.inStepWith (fun _ => keeps_report _ _) ⟨selected, h⟩
    · dsimp only
      rw [Job.ends_attempt hback]
      refine ends_attempt_call _ h.inStep.sound ?_ ?_
      · intro e line' hsame hsound
        exact Keeps.inStepWith (fun _ => keeps_report _ _) ⟨selected, h.of_same hsame hsound⟩
      · intro rows line' hperform hsound _ _
        obtain ⟨rfl, hsame⟩ := Registry.rowsOf_eq_ok hperform
        dsimp only
        rw [Job.ends_bind_apply]
        intro _
        rw [← hsame]
        exact ⟨_, .load hsound, by rw [hsame, h.structures], rfl⟩

theorem inStepWith_deselect {c : Client} {line : Server × List Exchange}
    (h : InStepWith structures c line) :
    Job.Ends (Authority.lossy loses Server.answer) Settled deselect
      (fun _ => InStepWith structures) c line := by
  refine ends_exclusively (fun c c' line heditor h => h.of_editor heditor)
    (Keeps.inStepWith (fun _ => keeps_report _ _) h)
    fun c' heditor => ?_
  obtain ⟨selected, h⟩ := h.of_editor heditor
  exact fun _ => ⟨none, ⟨h.inStep.sound, rfl⟩, h.structures, rfl⟩

def Operation.selected? : Operation → Option Structure
  | select record => some record
  | _ => none

/-- A structure that is selected is one of the authority's own. -/
def Operation.SelectsFrom (structures : Table StructureId Structure)
    (operation : Operation) : Prop :=
  ∀ record ∈ operation.selected?, structures.find? record.id = some record

instance (structures : Table StructureId Structure) (operation : Operation) :
    Decidable (operation.SelectsFrom structures) :=
  inferInstanceAs (Decidable (∀ record ∈ operation.selected?, _ = some record))

theorem ends_map {f : α → Outcome} {job : Job α} {post : Client → Server × List Exchange → Prop}
    {c : Client} {line : Server × List Exchange}
    (h : Job.Ends (Authority.lossy loses Server.answer) Settled job (fun _ => post) c line) :
    Job.Ends (Authority.lossy loses Server.answer) Settled (f <$> job) (fun _ => post) c line := by
  rw [map_eq_pure_bind, Job.ends_bind (backwardClosed_settled loses)]
  exact h.mono fun _ _ _ _ h _ => h

theorem inStepWith_operation (loses : List Exchange → Call → Option Failure)
    {operation : Operation} (hselects : operation.SelectsFrom structures)
    {c : Client} {line : Server × List Exchange} (h : InStepWith structures c line) :
    Job.Ends (Authority.lossy loses Server.answer) Settled operation.job
      (fun _ => InStepWith structures) c line := by
  cases operation with
  | select record => exact ends_map (inStepWith_select (hselects record rfl) h)
  | deselect => exact ends_map (inStepWith_deselect h)
  | dropFiber spot fiber =>
    exact ends_map (Keeps.inStepWith (fun _ => keeps_dropFiber spot fiber) h)
  | clearPort spot => exact ends_map (Keeps.inStepWith (fun _ => keeps_clearPort spot) h)
  | moveFiber source target fiber =>
    exact ends_map (Keeps.inStepWith (fun _ => keeps_moveFiber source target fiber) h)
  | dropBundle start bundle =>
    exact ends_map (Keeps.inStepWith (fun _ => keeps_dropBundle start bundle) h)
  | dropCable start cable records =>
    exact ends_map (Keeps.inStepWith (fun _ => keeps_dropCable start cable records) h)
  | dropOnPort spot drop records =>
    exact ends_map (Keeps.inStepWith (fun _ => keeps_dropOnPort spot drop records) h)
  | toggleMergeMode => exact ends_map (Keeps.inStepWith (fun _ => keeps_toggleMergeMode) h)
  | togglePort spot => exact ends_map (Keeps.inStepWith (fun _ => keeps_togglePort spot) h)
  | mergeSelected => exact ends_map (Keeps.inStepWith (fun _ => keeps_mergeSelected) h)
  | unmerge group ports => exact ends_map (Keeps.inStepWith (fun _ => keeps_unmerge group ports) h)
  | dropOnGroup group side drop =>
    exact ends_map (Keeps.inStepWith (fun _ => keeps_dropOnGroup group side drop) h)

end selections

/-! ### Runs -/

structure Turn where
  operation : Operation
  failpoints : List String := []
  loses : List Exchange → Call → Option Failure := fun _ _ => none

structure Session where
  client : Client
  server : Server
  records : List (List Exchange) := []

namespace Session

def take (session : Session) (turn : Turn) : Session :=
  let (_, client, server, record) :=
    turn.operation.job.run (Authority.lossy turn.loses Server.answer) session.client
      ({ session.server with failpoints := turn.failpoints }, [])
  { client, server, records := session.records ++ [record] }

def takeAll (session : Session) (turns : List Turn) : Session :=
  turns.foldl take session

def ofPlan (settings : ClientSettings) (clientIds : IdSource) (serverSettings : ServerSettings)
    (plan : NodePlan) (ids : IdSource) : Session :=
  { client := .ofSettings settings clientIds, server := .ofPlan serverSettings plan ids }

theorem distinct_take {session : Session} {turn : Turn}
    (h : (session.take turn).server.registry.ids.Distinct) :
    session.server.registry.ids.Distinct :=
  (Server.backwardClosed_lossy turn.loses).run turn.operation.job h

theorem distinct_takeAll {session : Session} {turns : List Turn}
    (h : (session.takeAll turns).server.registry.ids.Distinct) :
    session.server.registry.ids.Distinct := by
  induction turns generalizing session with
  | nil => exact h
  | cons turn turns ih => exact distinct_take (ih h)

theorem mem_records_takeAll (session : Session) (turns : List Turn) {record : List Exchange}
    (h : record ∈ session.records) : record ∈ (session.takeAll turns).records := by
  induction turns generalizing session with
  | nil => exact h
  | cons turn turns ih => exact ih _ (List.mem_append_left _ h)

theorem inStepWith_take {structures : Table StructureId Structure} {session : Session} {turn : Turn}
    (hselects : turn.operation.SelectsFrom structures)
    (h : InStepWith structures session.client (session.server, []))
    (hids : (session.take turn).server.registry.ids.Distinct)
    (hrefetched : ∀ record ∈ (session.take turn).records, Refetched record) :
    InStepWith structures (session.take turn).client ((session.take turn).server, []) := by
  obtain ⟨selected, ⟨hsound, hrows⟩, hstructures, hselected⟩ := h
  have hstart : InStepWith structures session.client
      ({ session.server with failpoints := turn.failpoints }, []) :=
    ⟨selected, ⟨hsound, hrows⟩, hstructures, hselected⟩
  have hrecord := hrefetched _ (List.mem_append_right _ (List.mem_singleton.2 rfl))
  obtain ⟨selected', ⟨hsound', hrows'⟩, hstructures', hselected'⟩ :=
    inStepWith_operation turn.loses hselects hstart ⟨hids, hrecord⟩
  exact ⟨selected', ⟨hsound', hrows'⟩, hstructures', hselected'⟩

theorem inStepWith_takeAll {structures : Table StructureId Structure} {session : Session}
    {turns : List Turn} (hselects : ∀ turn ∈ turns, turn.operation.SelectsFrom structures)
    (h : InStepWith structures session.client (session.server, []))
    (hids : (session.takeAll turns).server.registry.ids.Distinct)
    (hrefetched : ∀ record ∈ (session.takeAll turns).records, Refetched record) :
    InStepWith structures (session.takeAll turns).client ((session.takeAll turns).server, []) := by
  induction turns generalizing session with
  | nil => exact h
  | cons turn turns ih =>
    refine ih (fun turn hmem => hselects turn (List.mem_cons_of_mem _ hmem)) ?_ hids hrefetched
    refine inStepWith_take (hselects turn List.mem_cons_self) h (distinct_takeAll hids) ?_
    exact fun record hmem => hrefetched record (mem_records_takeAll _ turns hmem)

theorem inStep_session (settings : ClientSettings) (clientIds : IdSource)
    (serverSettings : ServerSettings) (plan : NodePlan) (ids : IdSource) (turns : List Turn)
    (hselects : ∀ turn ∈ turns,
      turn.operation.SelectsFrom (Server.ofPlan serverSettings plan ids).registry.structures)
    (hids : ((ofPlan settings clientIds serverSettings plan ids).takeAll
      turns).server.registry.ids.Distinct)
    (hrefetched : ∀ record ∈ ((ofPlan settings clientIds serverSettings plan ids).takeAll
      turns).records, Refetched record) :
    let last := (ofPlan settings clientIds serverSettings plan ids).takeAll turns
    InStep last.client last.server := by
  have hstart : InStepWith (Server.ofPlan serverSettings plan ids).registry.structures
      (ofPlan settings clientIds serverSettings plan ids).client
      ((ofPlan settings clientIds serverSettings plan ids).server, []) :=
    ⟨none, ⟨Server.sound_ofPlan serverSettings plan ids, rfl⟩, rfl, rfl⟩
  obtain ⟨selected, haligned⟩ := inStepWith_takeAll hselects hstart hids hrefetched
  exact haligned.inStep

/-- After every run of operations the editor shows the rows that the authority lists for the
selected structure, and no temporary one, whatever failed on the way. Only a listing that could not
be fetched anew after an accepted write is ruled out. -/
theorem inStep_takeAll (settings : ClientSettings) (clientIds : IdSource)
    (serverSettings : ServerSettings) (plan : NodePlan) (ids : IdSource) (turns : List Turn)
    (hselects : ∀ turn ∈ turns,
      turn.operation.SelectsFrom (Server.ofPlan serverSettings plan ids).registry.structures)
    (hids : ((ofPlan settings clientIds serverSettings plan ids).takeAll
      turns).server.registry.ids.Distinct)
    (hrefetched : ∀ record ∈ ((ofPlan settings clientIds serverSettings plan ids).takeAll
      turns).records, Refetched record) :
    let last := (ofPlan settings clientIds serverSettings plan ids).takeAll turns
    last.client.editor.rows = last.server.registry.shown last.client.editor.structureId ∧
      ∀ row ∈ last.client.editor.rows, row.id.isTemporary = false := by
  obtain ⟨hsound, hrows⟩ :=
    inStep_session settings clientIds serverSettings plan ids turns hselects hids hrefetched
  refine ⟨hrows, fun row hmem => ?_⟩
  rw [hrows] at hmem
  simp only [Registry.shown] at hmem
  split at hmem
  next id _ =>
    obtain ⟨port, hfind⟩ := Registry.mem_listing_iff.1 hmem
    exact (hsound.wellFormed.row_at hfind).2.2
  next => cases hmem

theorem inStep_after_fill :
    let turns : List Turn :=
      [{ operation := .select Server.smallTray },
        { operation := .dropFiber ⟨2, .a⟩ ⟨Server.smallFiber 1, "cable"⟩ },
        { operation := .toggleMergeMode }, { operation := .togglePort ⟨1, .a⟩ },
        { operation := .togglePort ⟨2, .a⟩ }, { operation := .mergeSelected },
        { operation := .clearPort ⟨1, .a⟩, loses := fun _ _ => some .noFibers },
        { operation := .dropBundle ⟨1, .b⟩
            ⟨⟨⟨3⟩⟩, "cable", 1, "blue", [Server.smallFiber 3, Server.smallFiber 2]⟩
          failpoints := ["upsert_fiber_splice:port=2"] }]
    let last := (ofPlan {} (.numbered 0 0) {} Server.smallPlan (.numbered 0 0)).takeAll turns
    last.client.editor.rows.map (fun row =>
      (row.port, (row.fiber .a).isSome, (row.fiber .b).isSome)) =
        [(1, true, true), (2, true, false)] ∧
      last.client.editor.rows = last.server.registry.shown last.client.editor.structureId ∧
      ∀ row ∈ last.client.editor.rows, row.id.isTemporary = false :=
  ⟨by decide +kernel,
    inStep_takeAll _ _ _ _ _ _ (by decide +kernel) (by decide +kernel) (by decide +kernel)⟩

end Session
end CrossConnect
