import CrossConnect.Proofs.Editor

/-!
Sequences of edits, from the empty editor on: the rows stay in ascending order and belong to the
selected structure, their merge groups change only with rows from outside, and a port side is
selected when it was toggled an odd number of times since merge mode was entered.
-/
namespace CrossConnect

open Occupancy

variable {rows : List Splice} {id : StructureId} {port : PortNumber} {ids : IdSource}
  {editor : Editor} {edit : Edit}

/-! ### Rows and the structure they belong to -/

def RowsOf (id : StructureId) (rows : List Splice) : Prop :=
  ∀ row ∈ rows, row.structureId = id

theorem RowsOf.of_perm {rows' : List Splice} (h : RowsOf id rows) (hperm : rows'.Perm rows) :
    RowsOf id rows' :=
  fun row hrow => h row (hperm.mem_iff.1 hrow)

theorem structureId_setFiber (row : Splice) (side : Side) (fiber : Option Termination) :
    (row.setFiber side fiber).structureId = row.structureId :=
  Splice.structureId_mapEndpoint ..

/-- The rows that an edit brings along belong to the structure that it is meant for. -/
def Edit.Fits : Edit → Prop
  | replaceRows id rows => RowsOf id rows
  | confirm id row => row.structureId = id
  | load record _ rows => RowsOf record.id rows
  | _ => True

def Edit.brought : Edit → List Splice
  | load _ _ rows | replaceRows _ rows => rows
  | confirm _ row => [row]
  | _ => []

theorem Editor.perform_togglePort (editor : Editor) (ids : IdSource) (spot : PortSide) :
    (editor.perform ids (.togglePort spot)).1 =
      { editor with selection :=
        if editor.mergeMode then toggle spot editor.selection else editor.selection } := by
  simp only [perform]
  split <;> rfl

theorem Editor.forall_perform {p : Splice → Prop} (h : ∀ row ∈ editor.rows, p row)
    (hbrought : ∀ row ∈ edit.brought, p row)
    (hfiber : ∀ row side fiber, p row → p (Splice.setFiber row side fiber))
    (hblank : ∀ id, edit.scope = some id →
      ∀ uuid port, p { id := .temporary uuid, structureId := id, port }) :
    ∀ row ∈ (editor.perform ids edit).1.rows, p row := by
  cases edit with
  | load | replaceRows => exact forall_sortRows hbrought
  | unload => exact List.forall_mem_nil _
  | place id spot fiber =>
    exact forall_sortRows
      (forall_placeOnAll h (fun row => hfiber row _ _) (hblank id rfl) _)
  | vacate => exact forall_vacateAll h (fun row => hfiber row _ _) _
  | confirm id row =>
    exact forall_sortRows (forall_confirmRow h (hbrought row (List.mem_singleton_self row)))
  | prune => exact fun row hrow => h row (List.mem_of_mem_filter hrow)
  | toggleMergeMode | clearSelection => exact h
  | togglePort spot =>
    rw [Editor.perform_togglePort]
    exact h

theorem RowsOf.perform (h : RowsOf id editor.rows) (hscope : edit.scope = some id)
    (hfits : edit.Fits) : RowsOf id (editor.perform ids edit).1.rows := by
  refine Editor.forall_perform h ?_
    (fun row side fiber hrow => (structureId_setFiber row side fiber).trans hrow) ?_
  · cases edit with
    | replaceRows other rows =>
      obtain rfl := Option.some.inj hscope
      exact hfits
    | confirm other row =>
      obtain rfl := Option.some.inj hscope
      exact List.forall_mem_singleton.2 hfits
    | load => cases hscope
    | _ => exact List.forall_mem_nil _
  · rintro other hother uuid port
    exact Option.some.inj (hother.symm.trans hscope)

/-- Every row is of the selected structure, so that there is none when nothing is selected. -/
def Editor.Owns (editor : Editor) : Prop :=
  ∀ row ∈ editor.rows, editor.structureId = some row.structureId

theorem Editor.owns_iff (h : editor.structureId = some id) :
    editor.Owns ↔ RowsOf id editor.rows := by
  simp only [Editor.Owns, RowsOf, h, Option.some.injEq, eq_comm]

/-! ### What an edit keeps of a row -/

def Splice.withoutFibers (row : Splice) : Splice :=
  (row.setFiber .a none).setFiber .b none

@[simp] theorem Splice.withoutFibers_setFiber (row : Splice) (side : Side)
    (fiber : Option Termination) : (row.setFiber side fiber).withoutFibers = row.withoutFibers := by
  cases side <;> rfl

theorem Splice.structureId_withoutFibers (row : Splice) :
    row.withoutFibers.structureId = row.structureId :=
  rfl

theorem Splice.agree_of_withoutFibers_eq {before after : Splice}
    (h : after.withoutFibers = before.withoutFibers) :
    after.id = before.id ∧ ∀ side, (after.endpoint side).group = (before.endpoint side).group ∧
      (after.endpoint side).span = (before.endpoint side).span := by
  have hid : after.withoutFibers.id = before.withoutFibers.id := by rw [h]
  refine ⟨hid, fun side => ?_⟩
  cases side with
  | a => exact ⟨congrArg (·.endpointA.group) h, congrArg (·.endpointA.span) h⟩
  | b => exact ⟨congrArg (·.endpointB.group) h, congrArg (·.endpointB.span) h⟩

theorem withoutFibers_placeOnAll {before : Splice} (hbefore : row rows port = some before)
    (id : StructureId) (side : Side) (fiber : Termination) (ports : List PortNumber)
    (ids : IdSource) :
    ∃ after, row (Editor.placeOnAll id side fiber ports rows ids).1 port = some after ∧
      after.withoutFibers = before.withoutFibers := by
  induction ports generalizing rows ids before with
  | nil => exact ⟨before, hbefore, rfl⟩
  | cons target ports ih =>
    have hplaced : ∃ next, row (Editor.placeOn id side fiber rows ids target).1 port = some next ∧
        next.withoutFibers = before.withoutFibers := by
      rw [row_placeOn]
      split
      next hport =>
        refine ⟨_, rfl, ?_⟩
        rw [Splice.withoutFibers_setFiber, opened, ← hport, hbefore, Option.getD_some]
      next => exact ⟨before, hbefore, rfl⟩
    obtain ⟨next, hnext, hagree⟩ := hplaced
    obtain ⟨after, hafter, hsame⟩ := ih hnext _
    exact ⟨after, hafter, hsame.trans hagree⟩

namespace Editor

theorem apply_cases (editor : Editor) (ids : IdSource) (edit : Edit) :
    edit.scope.isSome ∧ editor.apply ids edit = (editor, ids) ∨
      (∀ id, edit.scope = some id → editor.structureId = some id) ∧
        editor.apply ids edit = editor.perform ids edit := by
  simp only [apply]
  split
  next hscope =>
    refine .inr ⟨fun id hid => ?_, rfl⟩
    simpa [hid, isSelected] using hscope
  next hscope =>
    refine .inl ⟨?_, rfl⟩
    cases hmeant : edit.scope with
    | none => exact absurd (by rw [hmeant]; rfl) hscope
    | some id => rfl

theorem withoutFibers_perform (h : PortsDiffer editor.rows) (hbrought : edit.brought = [])
    {before after : Splice}
    (hbefore : Occupancy.row editor.rows port = some before)
    (hafter : Occupancy.row (editor.perform ids edit).1.rows port = some after) :
    after.withoutFibers = before.withoutFibers := by
  have hkept : Occupancy.row editor.rows port = some after →
      after.withoutFibers = before.withoutFibers := fun hsame =>
    congrArg Splice.withoutFibers (Option.some.inj (hsame.symm.trans hbefore))
  cases edit with
  | load record ports rows | replaceRows id rows =>
    obtain rfl : rows = [] := hbrought
    cases hafter
  | unload => cases hafter
  | confirm => cases hbrought
  | place id spot fiber =>
    obtain ⟨placed, hplaced, hagree⟩ :=
      withoutFibers_placeOnAll hbefore id spot.side fiber (fanOut editor.rows spot) ids
    have hsorted := (row_sortRows (portsDiffer_placeOnAll h)).symm.trans hafter
    exact (congrArg Splice.withoutFibers
      (Option.some.inj (hsorted.symm.trans hplaced))).trans hagree
  | vacate id spot =>
    have hvacated := row_vacateAll.symm.trans hafter
    rw [hbefore] at hvacated
    obtain rfl := Option.some.inj hvacated
    split
    · exact Splice.withoutFibers_setFiber ..
    · rfl
  | prune id =>
    have hpruned := (row_filter h _).symm.trans hafter
    exact hkept (Option.filter_eq_some_iff.1 hpruned).1
  | toggleMergeMode | clearSelection => exact hkept hafter
  | togglePort spot =>
    rw [perform_togglePort] at hafter
    exact hkept hafter

theorem withoutFibers_apply (h : PortsDiffer editor.rows) (hbrought : edit.brought = [])
    {before after : Splice}
    (hbefore : Occupancy.row editor.rows port = some before)
    (hafter : Occupancy.row (editor.apply ids edit).1.rows port = some after) :
    after.withoutFibers = before.withoutFibers := by
  rcases editor.apply_cases ids edit with ⟨-, happly⟩ | ⟨-, happly⟩
  · rw [happly] at hafter
    exact congrArg Splice.withoutFibers (Option.some.inj (hafter.symm.trans hbefore))
  · rw [happly] at hafter
    exact withoutFibers_perform h hbrought hbefore hafter

/-! ### Order and owners, edit by edit -/

theorem ascends_perform (h : Ascends editor.rows) (hbrought : PortsDiffer edit.brought) :
    Ascends (editor.perform ids edit).1.rows := by
  cases edit with
  | load | replaceRows => exact ascends_sortRows hbrought
  | unload => exact List.Pairwise.nil
  | place => exact ascends_sortRows (portsDiffer_placeOnAll h.portsDiffer)
  | vacate => exact h.vacateAll _ _
  | confirm => exact ascends_sortRows (portsDiffer_confirmRow h.portsDiffer)
  | prune => exact h.filter _
  | toggleMergeMode | clearSelection => exact h
  | togglePort spot =>
    rw [perform_togglePort]
    exact h

theorem selected_perform (hscope : edit.scope = some id) :
    (editor.perform ids edit).1.selected = editor.selected := by
  cases edit with
  | load | unload | toggleMergeMode | togglePort | clearSelection => cases hscope
  | _ => rfl

end Editor

/-- A list of rows that an edit brings along has one row a port, all of the edit's structure. -/
def Edit.ListsFit : Edit → Prop
  | load record _ rows => PortsDiffer rows ∧ RowsOf record.id rows
  | replaceRows id rows => PortsDiffer rows ∧ RowsOf id rows
  | _ => True

theorem Edit.ListsFit.portsDiffer (h : edit.ListsFit) : PortsDiffer edit.brought := by
  cases edit with
  | load | replaceRows => exact h.1
  | confirm => exact List.nodup_singleton _
  | _ => exact List.nodup_nil

namespace Editor

/-- A row of the structure, or one that was confirmed for it, but for its fibers. -/
def Admitted (past : List Edit) (id : StructureId) (row : Splice) : Prop :=
  row.structureId = id ∨
    ∃ confirmed, Edit.confirm id confirmed ∈ past ∧ row.withoutFibers = confirmed.withoutFibers

def Traced (editor : Editor) (past : List Edit) : Prop :=
  ∀ row ∈ editor.rows, ∃ id, editor.structureId = some id ∧ Admitted past id row

theorem Admitted.setFiber {past : List Edit} {row : Splice} (h : Admitted past id row) (side : Side)
    (fiber : Option Termination) : Admitted past id (row.setFiber side fiber) := by
  refine h.imp (structureId_setFiber row side fiber).trans ?_
  rintro ⟨confirmed, hmem, hagree⟩
  exact ⟨confirmed, hmem, (row.withoutFibers_setFiber side fiber).trans hagree⟩

theorem Traced.append {past : List Edit} (h : editor.Traced past) (edits : List Edit) :
    editor.Traced (past ++ edits) := by
  intro row hrow
  obtain ⟨id, hid, hadmitted⟩ := h row hrow
  refine ⟨id, hid, hadmitted.imp_right ?_⟩
  rintro ⟨confirmed, hmem, hagree⟩
  exact ⟨confirmed, List.mem_append_left edits hmem, hagree⟩

theorem Traced.perform {past : List Edit} (h : editor.Traced past)
    (hscope : ∀ id, edit.scope = some id → editor.structureId = some id) (hlists : edit.ListsFit) :
    (editor.perform ids edit).1.Traced (past ++ [edit]) := by
  have hkept := h.append [edit]
  -- An edit without a scope brings all the rows of a structure, or leaves the rows as they are.
  cases hmeant : edit.scope with
  | none =>
    cases edit with
    | load record ports rows =>
      exact fun row hrow => ⟨record.id, rfl, .inl (forall_sortRows hlists.2 row hrow)⟩
    | unload => exact List.forall_mem_nil _
    | toggleMergeMode | clearSelection => exact hkept
    | togglePort spot =>
      rw [perform_togglePort]
      exact hkept
    | _ => cases hmeant
  | some id =>
    simp only [Traced, structureId, selected_perform hmeant]
    refine forall_perform hkept ?_ ?_ ?_
    · cases edit with
      | replaceRows other rows =>
        exact fun row hrow => ⟨other, hscope other rfl, .inl (hlists.2 row hrow)⟩
      | confirm other row =>
        refine List.forall_mem_singleton.2 ⟨other, hscope other rfl, .inr ⟨row, ?_, rfl⟩⟩
        exact List.mem_append_right past (List.mem_singleton_self _)
      | load => cases hmeant
      | _ => exact List.forall_mem_nil _
    · rintro row side fiber ⟨other, hother, hadmitted⟩
      exact ⟨other, hother, hadmitted.setFiber side fiber⟩
    · exact fun other hother _ _ => ⟨other, hscope other hother, .inl rfl⟩

theorem Traced.owns {past : List Edit} (h : editor.Traced past) (hfits : ∀ edit ∈ past, edit.Fits) :
    editor.Owns := by
  intro row hrow
  obtain ⟨id, hid, rfl | ⟨confirmed, hmem, hagree⟩⟩ := h row hrow
  · exact hid
  · have hof : confirmed.structureId = id := hfits _ hmem
    rw [hid, ← row.structureId_withoutFibers, hagree, confirmed.structureId_withoutFibers, hof]

/-! ### The selection -/

variable {selection : List PortSide} {spot other : PortSide} {since : List Edit}

theorem nodup_toggle (h : selection.Nodup) : (toggle spot selection).Nodup := by
  simp only [toggle]
  split
  next => exact h.erase spot
  next hnew =>
    rw [← List.concat_eq_append]
    exact List.Nodup.concat hnew h

theorem mem_toggle (h : selection.Nodup) :
    other ∈ toggle spot selection ↔
      if other = spot then other ∉ selection else other ∈ selection := by
  simp only [toggle]
  split
  next hold =>
    rw [h.mem_erase_iff]
    split <;> simp_all
  next hnew =>
    rw [List.mem_append, List.mem_singleton]
    split <;> simp_all

/-- The edits since merge mode was last entered, when those before the last one are `since`. -/
def sinceAfter (editor next : Editor) (since : List Edit) (edit : Edit) : List Edit :=
  if !editor.mergeMode && next.mergeMode then [] else since ++ [edit]

/-- What is selected follows from the edits since merge mode was last entered. -/
structure Chooses (editor : Editor) (since : List Edit) : Prop where
  distinct : editor.selection.Nodup
  idle : editor.mergeMode = false → editor.selection = []
  toggled : editor.mergeMode = true →
    ∀ spot, spot ∈ editor.selection ↔ Odd (since.count (.togglePort spot))

theorem Chooses.mem_iff (h : editor.Chooses since) (spot : PortSide) :
    spot ∈ editor.selection ↔
      editor.mergeMode = true ∧ Odd (since.count (.togglePort spot)) := by
  cases hmode : editor.mergeMode with
  | true => simp [h.toggled hmode]
  | false => simp [h.idle hmode]

theorem Chooses.of_idle (hmode : editor.mergeMode = false) (hselection : editor.selection = []) :
    editor.Chooses since where
  distinct := hselection ▸ List.nodup_nil
  idle := fun _ => hselection
  toggled := fun hon => nomatch hmode.symm.trans hon

theorem sinceAfter_of_same {next : Editor} (hmode : next.mergeMode = editor.mergeMode) :
    editor.sinceAfter next since edit = since ++ [edit] := by
  simp [sinceAfter, hmode]

theorem Chooses.unchanged {next : Editor} (h : editor.Chooses since)
    (hmode : next.mergeMode = editor.mergeMode) (hselection : next.selection = editor.selection)
    (hother : ∀ spot, edit ≠ .togglePort spot) :
    next.Chooses (editor.sinceAfter next since edit) where
  distinct := hselection ▸ h.distinct
  idle := fun hoff => hselection.trans (h.idle (hmode.symm.trans hoff))
  toggled := fun hon spot => by
    rw [sinceAfter_of_same hmode, hselection, h.toggled (hmode.symm.trans hon), List.count_append,
      List.count_singleton, if_neg (by simpa using hother spot), Nat.add_zero]

theorem Chooses.toggle (h : editor.Chooses since) (hmode : editor.mergeMode = true)
    (spot : PortSide) :
    Chooses { editor with selection := Editor.toggle spot editor.selection }
      (since ++ [.togglePort spot]) where
  distinct := nodup_toggle h.distinct
  idle := fun hoff => nomatch hmode.symm.trans hoff
  toggled := fun _ other => by
    rw [mem_toggle h.distinct, h.toggled hmode, List.count_append, List.count_singleton]
    by_cases hother : other = spot
    · subst hother
      rw [if_pos rfl, if_pos (beq_self_eq_true _), Nat.odd_add_one]
    · rw [if_neg hother, if_neg (by simpa using Ne.symm hother), Nat.add_zero]

theorem Chooses.perform (h : editor.Chooses since) :
    (editor.perform ids edit).1.Chooses
      (editor.sinceAfter (editor.perform ids edit).1 since edit) := by
  cases edit with
  | load | unload | clearSelection => exact .of_idle rfl rfl
  | replaceRows | place | vacate | confirm | prune =>
    exact h.unchanged rfl rfl fun _ => Edit.noConfusion
  | toggleMergeMode =>
    cases hmode : editor.mergeMode with
    | true => exact .of_idle (by simp [Editor.perform, hmode]) rfl
    | false =>
      have hentered : editor.sinceAfter (editor.perform ids .toggleMergeMode).1 since
          .toggleMergeMode = [] := by
        simp [sinceAfter, Editor.perform, hmode]
      rw [hentered]
      exact ⟨List.nodup_nil, fun _ => rfl, fun _ spot => by simp [Editor.perform]⟩
  | togglePort spot =>
    cases hmode : editor.mergeMode with
    | false =>
      have hsame : (editor.perform ids (.togglePort spot)).1 = editor := by
        simp [Editor.perform, hmode]
      rw [hsame]
      exact .of_idle hmode (h.idle hmode)
    | true =>
      have hnext : (editor.perform ids (.togglePort spot)).1 =
          { editor with selection := Editor.toggle spot editor.selection } := by
        simp [Editor.perform, hmode]
      rw [hnext, sinceAfter_of_same (by rfl)]
      exact h.toggle hmode spot

/-! ### Sequences of edits -/

def applyAll (editor : Editor) (ids : IdSource) : List Edit → Editor × IdSource
  | [] => (editor, ids)
  | edit :: edits =>
    let next := editor.apply ids edit
    next.1.applyAll next.2 edits

/-- The edits of a sequence since merge mode was last entered, after the edits `since`. -/
def sinceEntered (editor : Editor) (ids : IdSource) (since : List Edit) : List Edit → List Edit
  | [] => since
  | edit :: edits =>
    let next := editor.apply ids edit
    next.1.sinceEntered next.2 (editor.sinceAfter next.1 since edit) edits

/-- What holds of the editor after the edits `past`, of which `since` came after merge mode was
entered. -/
structure Kept (editor : Editor) (past since : List Edit) : Prop where
  ascends : Ascends editor.rows
  traced : editor.Traced past
  chooses : editor.Chooses since

variable {past edits : List Edit}

theorem kept_empty : Kept {} [] [] where
  ascends := List.Pairwise.nil
  traced := List.forall_mem_nil _
  chooses := .of_idle rfl rfl

theorem Kept.apply (h : editor.Kept past since) (ids : IdSource) (hlists : edit.ListsFit) :
    (editor.apply ids edit).1.Kept (past ++ [edit])
      (editor.sinceAfter (editor.apply ids edit).1 since edit) := by
  rcases editor.apply_cases ids edit with ⟨hmeant, happly⟩ | ⟨hscope, happly⟩
  · rw [happly]
    refine ⟨h.ascends, h.traced.append [edit], h.chooses.unchanged rfl rfl ?_⟩
    rintro spot rfl
    cases hmeant
  · rw [happly]
    exact ⟨ascends_perform h.ascends hlists.portsDiffer, h.traced.perform hscope hlists,
      h.chooses.perform⟩

theorem Kept.applyAll (h : editor.Kept past since) (ids : IdSource)
    (hlists : ∀ edit ∈ edits, edit.ListsFit) :
    (editor.applyAll ids edits).1.Kept (past ++ edits) (editor.sinceEntered ids since edits) := by
  induction edits generalizing editor ids past since with
  | nil => rwa [List.append_nil]
  | cons edit edits ih =>
    obtain ⟨hfirst, hrest⟩ := List.forall_mem_cons.1 hlists
    have hnext := ih (h.apply ids hfirst) (editor.apply ids edit).2 hrest
    rwa [List.append_assoc] at hnext

/-- The rows go up, and each is of the selected structure unless one of another structure was
confirmed for it; what is selected was toggled an odd number of times since merge mode was entered;
and a row that was there before one more edit keeps its merge groups, unless the edit brings rows
along. -/
theorem wellFormed_applyAll (ids : IdSource) (edits : List Edit)
    (hlists : ∀ edit ∈ edits, edit.ListsFit) :
    let final := (applyAll {} ids edits).1
    Ascends final.rows ∧
    (∀ row ∈ final.rows, ∃ id, final.structureId = some id ∧
      (row.structureId = id ∨
        ∃ confirmed, .confirm id confirmed ∈ edits ∧ row.withoutFibers = confirmed.withoutFibers)) ∧
    ((∀ edit ∈ edits, edit.Fits) → final.Owns) ∧
    final.selection.Nodup ∧
    (final.mergeMode = false → final.selection = []) ∧
    (∀ ids edit, edit.brought = [] → ∀ port before after,
      Occupancy.row final.rows port = some before →
      Occupancy.row (final.apply ids edit).1.rows port = some after →
      after.id = before.id ∧ ∀ side, (after.endpoint side).group = (before.endpoint side).group ∧
        (after.endpoint side).span = (before.endpoint side).span) ∧
    ∀ spot, spot ∈ final.selection ↔ final.mergeMode = true ∧
      Odd ((sinceEntered {} ids [] edits).count (.togglePort spot)) := by
  intro final
  have hkept : final.Kept edits (sinceEntered {} ids [] edits) := kept_empty.applyAll ids hlists
  refine ⟨hkept.ascends, hkept.traced, hkept.traced.owns, hkept.chooses.distinct,
    hkept.chooses.idle, fun ids edit hbrought port before after hbefore hafter => ?_,
    hkept.chooses.mem_iff⟩
  exact Splice.agree_of_withoutFibers_eq
    (withoutFibers_apply hkept.ascends.portsDiffer hbrought hbefore hafter)

def bareTray : Structure :=
  { id := ⟨⟨1⟩⟩, name := "tray", slotStart := 1, slotEnd := 1, componentType := none }

def trayRow (port : PortNumber) : Splice :=
  { id := .persisted ⟨2⟩, structureId := bareTray.id, port }

def strayRow : Splice :=
  { id := .persisted ⟨3⟩, structureId := ⟨⟨4⟩⟩, port := 2 }

def selectingEdits : List Edit :=
  [.load bareTray [] [trayRow 3, trayRow 1], .togglePort ⟨1, .b⟩, .toggleMergeMode,
    .togglePort ⟨1, .a⟩, .togglePort ⟨3, .a⟩, .confirm bareTray.id strayRow, .togglePort ⟨1, .a⟩]

theorem wellFormed_selectingEdits :
    let final := (applyAll {} (.numbered 0 0) selectingEdits).1
    (∀ edit ∈ selectingEdits, edit.ListsFit) ∧
      Ascends final.rows ∧ final.rows = [trayRow 1, strayRow, trayRow 3] ∧
      final.selection.Nodup ∧ ⟨3, .a⟩ ∈ final.selection ∧ ⟨1, .a⟩ ∉ final.selection := by
  intro final
  have hlists : ∀ edit ∈ selectingEdits, edit.ListsFit := by
    simp [selectingEdits, Edit.ListsFit, PortsDiffer, RowsOf, trayRow]
  obtain ⟨hascends, -, -, hdistinct, -, -, hselected⟩ :=
    wellFormed_applyAll (.numbered 0 0) selectingEdits hlists
  refine ⟨hlists, hascends, by decide, hdistinct, (hselected _).2 ?_, fun h => ?_⟩
  · exact ⟨by decide, by decide⟩
  · exact absurd ((hselected _).1 h).2 (by decide)

def strayEdits : List Edit :=
  [.load bareTray [] [], .confirm bareTray.id strayRow]

theorem not_owns_strayEdits :
    (∀ edit ∈ strayEdits, edit.ListsFit) ∧
      ∃ row ∈ (applyAll {} (.numbered 0 0) strayEdits).1.rows,
        (applyAll {} (.numbered 0 0) strayEdits).1.structureId ≠ some row.structureId := by
  refine ⟨?_, strayRow, by decide, by decide⟩
  simp [strayEdits, Edit.ListsFit, PortsDiffer, RowsOf]

end Editor

end CrossConnect
