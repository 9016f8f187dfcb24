import CrossConnect.Client.Operation
import CrossConnect.Proofs.Client.Owned
import CrossConnect.Proofs.Client.Run

/-!
Operations one after another, with an authority that may answer anything. The editor changes only by
edits, so what every edit keeps is true of its rows at all times; in particular they are in order.
Putting rows back then puts them back in their places, and an operation that fails leaves the editor
as it found it.
-/
namespace CrossConnect

open Editor

/-- What is known of the rows shown, given what is known of rows that come as answers. -/
structure RowsRule where
  shown : List Splice → Prop
  listed : List Splice → Prop
  told : Splice → Prop
  shown_nil : shown []
  sortRows_eq : ∀ {rows}, shown rows → sortRows rows = rows
  replaced : ∀ {rows}, listed rows → shown (sortRows rows)
  placed : ∀ {rows} id side fiber ports ids, shown rows →
    shown (sortRows (placeOnAll id side fiber ports rows ids).1)
  vacated : ∀ {rows} ports side, shown rows → shown (vacateAll ports side rows)
  confirmed : ∀ {rows row}, shown rows → told row → shown (sortRows (confirmRow row rows))
  pruned : ∀ {rows}, shown rows → shown (rows.filter (!·.isEmpty))

def RowsRule.Hears (rule : RowsRule) : (call : Call) → Except Failure call.Answer → Prop
  | .rowsOf _, .ok rows => rule.listed rows
  | .place _, .ok splice => rule.told splice
  | _, _ => True

def RowsRule.Fits (rule : RowsRule) : Edit → Prop
  | .load _ _ rows | .replaceRows _ rows => rule.listed rows ∨ rule.shown rows
  | .confirm _ splice => rule.told splice
  | _ => True

theorem RowsRule.shown_perform (rule : RowsRule) {editor : Editor} {ids : IdSource} {edit : Edit}
    (h : rule.shown editor.rows) (hfits : rule.Fits edit) :
    rule.shown (editor.perform ids edit).1.rows := by
  have hsorted : ∀ {rows}, rule.listed rows ∨ rule.shown rows → rule.shown (sortRows rows) := by
    rintro rows (hlisted | hshown)
    · exact rule.replaced hlisted
    · rw [rule.sortRows_eq hshown]
      exact hshown
  cases edit with
  | load record ports rows => exact hsorted hfits
  | replaceRows id rows => exact hsorted hfits
  | unload => exact rule.shown_nil
  | place id spot fiber => exact rule.placed _ _ _ _ _ h
  | vacate id spot => exact rule.vacated _ _ h
  | confirm id splice => exact rule.confirmed h hfits
  | prune id => exact rule.pruned h
  | toggleMergeMode => exact h
  | togglePort spot =>
    rw [Editor.perform_togglePort]
    exact h
  | clearSelection => exact h

theorem RowsRule.shown_apply (rule : RowsRule) {c : Client} {edit : Edit}
    (h : rule.shown c.editor.rows) (hfits : rule.Fits edit) :
    rule.shown (c.apply edit).editor.rows := by
  simp only [Client.apply, Editor.apply]
  split
  · exact rule.shown_perform h hfits
  · exact h

theorem Client.editor_putBack {c c' : Client} {id : StructureId} {edit : Edit}
    (hscope : edit.scope = some id) (hsorted : sortRows c.editor.rows = c.editor.rows)
    (hediting : c'.editor = (c.apply edit).editor) :
    (c'.apply (.replaceRows id c.editor.rows)).editor = c.editor := by
  by_cases hid : c.editor.structureId = some id
  · have hid' : c'.editor.structureId = some id := by
      rw [hediting, structureId_apply hscope, hid]
    have hrows : ∃ rows, (c.apply edit).editor = { c.editor with rows } := by
      rw [editor_apply hid hscope]
      cases edit with
      | load | unload | toggleMergeMode | togglePort | clearSelection => cases hscope
      | _ => exact ⟨_, rfl⟩
    obtain ⟨rows, hrows⟩ := hrows
    rw [editor_apply hid' rfl, hediting, hrows]
    simp only [Editor.perform]
    rw [hsorted]
  · have hunchanged : c'.editor = c.editor := hediting.trans (editor_apply_elsewhere hscope hid)
    rw [editor_apply_elsewhere rfl (hunchanged ▸ hid), hunchanged]

/-- An authority with what is known of its states and its answers. -/
structure Partner (σ : Type) where
  authority : Authority σ
  final : σ → Prop
  closed : Job.BackwardClosed authority final
  rule : RowsRule
  good : σ → Prop
  answers : ∀ s call, good s → final (authority s call).2 →
    good (authority s call).2 ∧ rule.Hears call (authority s call).1

def Failing {α : Type} : Except Failure α → Prop
  | .ok _ => False
  | .error _ => True

def Outcome.isSuccess : Outcome → Bool
  | flag value => value
  | fill outcome => outcome.isSuccess
  | drop outcome => outcome.isSuccess

/-- It undoes what it did when it fails. A move may fail half of the way, and the two switches
answer with what is chosen now. -/
def Operation.undoes : Operation → Bool
  | toggleMergeMode | togglePort _ | moveFiber _ _ _ => false
  | _ => true

namespace Partner

variable {σ α β : Type}

/-- What is left by a job that found the client: rows and authority of which the same is known, a
value as told, and the editor unchanged when the value says that the job failed. -/
structure Leaves (partner : Partner σ) (told failed : α → Prop) (found : Client) (value : α)
    (left : Client) (s : σ) : Prop where
  good : partner.good s
  shown : partner.rule.shown left.editor.rows
  told : told value
  editor : failed value → left.editor = found.editor

def Restores (partner : Partner σ) (job : Job α) (told failed : α → Prop) : Prop :=
  ∀ c s, partner.good s → partner.rule.shown c.editor.rows →
    job.Ends partner.authority partner.final (partner.Leaves told failed c) c s

/-! ### Jobs in general -/

section general

variable {partner : Partner σ} {job : Job α} {told failed : α → Prop} {told' failed' : β → Prop}

theorem Restores.mono {told' failed' : α → Prop} (h : partner.Restores job told failed)
    (himp : ∀ value, told value → told' value ∧ (failed' value → failed value)) :
    partner.Restores job told' failed' := fun c s hgood hshown =>
  (h c s hgood hshown).mono fun value _ _ _ hleft =>
    { hleft with
      told := (himp value hleft.told).1
      editor := fun hfailed => hleft.editor ((himp value hleft.told).2 hfailed) }

theorem Restores.after {p : Prop} (h : partner.Restores job told failed) (hp : p) :
    partner.Restores job (fun value => told value ∧ (failed value → p)) failed :=
  h.mono fun _ htold => ⟨⟨htold, fun _ => hp⟩, fun hfailed => hfailed⟩

theorem Leaves.trans {c c₁ c₂ : Client} {s₁ s₂ : σ} {value : α} {result : β}
    (h : partner.Leaves told failed c value c₁ s₁)
    (h' : partner.Leaves (fun result => told' result ∧ (failed' result → failed value)) failed' c₁
      result c₂ s₂) : partner.Leaves told' failed' c result c₂ s₂ :=
  { h' with
    told := h'.told.1
    editor := fun hfailed => (h'.editor hfailed).trans (h.editor (h'.told.2 hfailed)) }

theorem Restores.bind {next : α → Job β} (h : partner.Restores job told failed)
    (hnext : ∀ value, told value → partner.Restores (next value)
      (fun result => told' result ∧ (failed' result → failed value)) failed') :
    partner.Restores (job >>= next) told' failed' := by
  intro c s hgood hshown
  rw [Job.ends_bind partner.closed]
  refine (h c s hgood hshown).mono fun value c₁ s₁ _ hmid => ?_
  exact (hnext value hmid.told c₁ s₁ hmid.good hmid.shown).mono fun _ _ _ _ hleft =>
    hmid.trans hleft

theorem Restores.attempt {attempt : Attempt α} {next : α → Attempt β}
    {told failed : Except Failure α → Prop} {told' failed' : Except Failure β → Prop}
    (h : partner.Restores attempt.run told failed)
    (hnext : ∀ value, told (.ok value) → partner.Restores (next value).run
      (fun result => told' result ∧ (failed' result → failed (.ok value))) failed')
    (herror : ∀ e, told (.error e) → told' (.error e) ∧ (failed' (.error e) → failed (.error e))) :
    partner.Restores (attempt >>= next).run told' failed' := by
  intro c s hgood hshown
  rw [Job.ends_attempt partner.closed]
  refine (h c s hgood hshown).mono fun answer c₁ s₁ _ hmid => ?_
  cases answer with
  | error e =>
    obtain ⟨htold, hback⟩ := herror e hmid.told
    exact ⟨hmid.good, hmid.shown, htold, fun hfailed => hmid.editor (hback hfailed)⟩
  | ok value =>
    exact (hnext value hmid.told c₁ s₁ hmid.good hmid.shown).mono fun _ _ _ _ hleft =>
      hmid.trans hleft

theorem Restores.bind_quiet {next : α → Job β} (h : partner.Restores job told fun _ => True)
    (hnext : ∀ value, told value → partner.Restores (next value) told' failed') :
    partner.Restores (job >>= next) told' failed' :=
  h.bind fun value htold => (hnext value htold).after trivial

theorem Restores.attempt_quiet {attempt : Attempt α} {next : α → Attempt β}
    {told : Except Failure α → Prop} {told' failed' : Except Failure β → Prop}
    (h : partner.Restores attempt.run told fun _ => True)
    (hnext : ∀ value, told (.ok value) → partner.Restores (next value).run told' failed')
    (herror : ∀ e, told' (.error e)) :
    partner.Restores (attempt >>= next).run told' failed' :=
  h.attempt (fun value htold => (hnext value htold).after trivial)
    fun e _ => ⟨herror e, fun _ => trivial⟩

theorem restores_pure {value : α} (htold : told value) :
    partner.Restores (pure value) told failed :=
  fun _ _ hgood hshown _ => ⟨hgood, hshown, htold, fun _ => rfl⟩

theorem restores_client {next : Client → Job α}
    (h : ∀ c, partner.Restores (next c) told failed) :
    partner.Restores (Job.client >>= next) told failed :=
  fun c s hgood hshown => h c c s hgood hshown

theorem restores_update {f : Client → Client} (hf : ∀ c, (f c).editor = c.editor) :
    partner.Restores (Job.update f) (fun _ => True) fun _ => True :=
  fun c _ hgood hshown _ => ⟨hgood, (hf c).symm ▸ hshown, trivial, fun _ => hf c⟩

theorem restores_notify (notice : Notice) :
    partner.Restores (Job.notify notice) (fun _ => True) fun _ => True :=
  restores_update (f := (·.notify notice)) fun _ => rfl

theorem restores_report {notice : Notice} {value : α} (htold : told value) :
    partner.Restores (do Job.notify notice; return value) told failed :=
  (restores_notify notice).bind_quiet fun _ _ => restores_pure htold

theorem restores_apply {edit : Edit} (hfits : partner.rule.Fits edit) :
    partner.Restores (Job.apply edit) (fun _ => True) fun _ => False :=
  fun _ _ hgood hshown _ => ⟨hgood, partner.rule.shown_apply hshown hfits, trivial, False.elim⟩

theorem Restores.map {f : α → β}
    (h : partner.Restores job (fun value => told' (f value)) fun value => failed' (f value)) :
    partner.Restores (f <$> job) told' failed' := by
  rw [map_eq_pure_bind]
  exact h.bind fun _ htold => restores_pure ⟨htold, id⟩

theorem restores_call (call : Call) :
    partner.Restores (Attempt.call call).run (partner.rule.Hears call) fun _ => True := by
  intro c s hgood hshown hfinal
  obtain ⟨hgood', hhears⟩ := partner.answers s call hgood hfinal
  exact ⟨hgood', hshown, hhears, fun _ => rfl⟩

end general

/-! ### Single ports -/

section ports

variable {partner : Partner σ} {id : StructureId}

open Client

def Settling (partner : Partner σ) (id : StructureId) : Except Failure Settlement → Prop
  | .ok settlement => partner.rule.Fits (settlement.edit id)
  | .error _ => True

theorem restores_settleMerged {merged : Bool} {otherwise : Settlement}
    (hfits : partner.rule.Fits (otherwise.edit id)) :
    partner.Restores (settleMerged id merged otherwise).run
      (partner.Settling id) fun _ => True := by
  cases merged with
  | false => exact restores_pure hfits
  | true =>
    rw [settleMerged, if_pos rfl, map_eq_pure_bind]
    exact (restores_call _).attempt_quiet (fun rows hrows => restores_pure (.inl hrows))
      fun _ => trivial

theorem restores_optimistically {edit : Edit} {remote : Attempt Settlement}
    (hscope : edit.scope = some id) (hfits : partner.rule.Fits edit)
    (hremote : partner.Restores remote.run (partner.Settling id) fun _ => True) :
    partner.Restores (optimistically id edit remote).run (fun _ => True) Failing := by
  intro c s hgood hshown
  rw [optimistically, ExceptT.run_mk, Job.ends_bind_client, Job.ends_bind_apply,
    Job.ends_bind partner.closed]
  refine (hremote _ s hgood (partner.rule.shown_apply hshown hfits)).mono
    fun answer c₁ s₁ _ hmid => ?_
  cases answer with
  | ok settlement =>
    rw [Job.ends_bind_apply, Job.ends_pure]
    have hbrings : partner.rule.Fits (settlement.edit id) := hmid.told
    exact fun _ => ⟨hmid.good, partner.rule.shown_apply hmid.shown hbrings, trivial, False.elim⟩
  | error e =>
    rw [Job.ends_bind_apply, Job.ends_pure]
    have hback : partner.rule.Fits (.replaceRows id c.editor.rows) := .inr hshown
    exact fun _ => ⟨hmid.good, partner.rule.shown_apply hmid.shown hback, trivial, fun _ =>
      editor_putBack hscope (partner.rule.sortRows_eq hshown) (hmid.editor trivial)⟩

theorem restores_checkMerged (spot : PortSide) :
    partner.Restores (checkMerged spot).run (fun _ => True) fun _ => True := by
  rw [checkMerged, ExceptT.run_mk]
  exact restores_client fun c => restores_pure trivial

theorem restores_assign (spot : PortSide) (fiber : LabelledFiber) :
    partner.Restores (assign id spot fiber).run (fun _ => True) Failing := by
  have hfits : partner.rule.Fits (.place id spot fiber.termination) := trivial
  refine (restores_checkMerged spot).attempt_quiet
    (fun merged _ => restores_optimistically rfl hfits ?_) fun _ => trivial
  refine (restores_call _).attempt_quiet (fun row hrow => ?_) fun _ => trivial
  have hsettles : partner.rule.Fits ((Settlement.row row).edit id) := hrow
  exact restores_settleMerged hsettles

theorem restores_vacate (spot : PortSide) :
    partner.Restores (vacate id spot).run (fun _ => True) Failing := by
  have hfits : partner.rule.Fits (.vacate id spot) := trivial
  have hsettles : partner.rule.Fits (Settlement.prune.edit id) := trivial
  refine (restores_checkMerged spot).attempt_quiet
    (fun merged _ => restores_optimistically rfl hfits ?_) fun _ => trivial
  exact (restores_call _).attempt_quiet (fun _ _ => restores_settleMerged hsettles) fun _ => trivial

theorem restores_dropFiber (spot : PortSide) (fiber : LabelledFiber) :
    partner.Restores (dropFiber spot fiber) (fun _ => True) (· = false) := by
  refine restores_client fun c => ?_
  split
  · exact restores_pure trivial
  · refine (restores_assign spot fiber).bind fun answer _ => ?_
    cases answer with
    | ok _ => exact restores_report ⟨trivial, nofun⟩
    | error _ => exact restores_report ⟨trivial, fun _ => trivial⟩

theorem restores_clearPort (spot : PortSide) :
    partner.Restores (clearPort spot) (fun _ => True) (· = false) := by
  refine restores_client fun c => ?_
  split
  · exact restores_pure trivial
  · refine (restores_vacate spot).bind fun answer _ => ?_
    cases answer with
    | ok _ => exact restores_report ⟨trivial, nofun⟩
    | error _ => exact restores_report ⟨trivial, fun _ => trivial⟩

theorem restores_moveFiber (source target : PortSide) (fiber : LabelledFiber) :
    partner.Restores (moveFiber source target fiber) (fun _ => True) fun _ => False := by
  rw [moveFiber]
  split
  · exact restores_pure trivial
  · refine restores_client fun c => ?_
    split
    · exact restores_pure trivial
    · refine (restores_assign target fiber).bind fun placed _ => ?_
      cases placed with
      | error _ => exact restores_report ⟨trivial, False.elim⟩
      | ok _ =>
        -- The fiber is on the target by now, so nothing is said of the rows when this step fails.
        refine (restores_vacate source).bind fun cleared _ => ?_
        cases cleared with
        | error _ => exact restores_report ⟨⟨trivial, False.elim⟩, False.elim⟩
        | ok _ => exact restores_report ⟨⟨trivial, False.elim⟩, False.elim⟩

end ports

/-! ### Fills -/

section fills

variable {partner : Partner σ}

open Client

theorem restores_placeOne (target : FillTarget) (spot : PortSide) (fiber : LabelledFiber) :
    partner.Restores (placeOne target spot fiber).run (fun _ => True)
      fun answer => target.inEditor = true → Failing answer := by
  cases hin : target.inEditor with
  | true =>
    rw [placeOne, if_pos hin]
    exact (restores_assign spot fiber).mono fun _ _ => ⟨trivial, fun hfailed => hfailed rfl⟩
  | false =>
    rw [placeOne, if_neg (by simp [hin])]
    exact (restores_call _).attempt_quiet (fun _ _ => restores_pure trivial) fun _ => trivial

theorem restores_fillPorts (target : FillTarget) (side : Side) (ports : List PortNumber)
    (fibers : List LabelledFiber) (filled : List MergeGroupId) (pass : FillPass) :
    partner.Restores (fillPorts target side ports fibers filled pass)
      (fun last => pass.report.placed ≤ last.report.placed)
      fun last => target.inEditor = true → last.report.placed = 0 := by
  induction ports generalizing fibers filled pass with
  | nil => exact restores_pure le_rfl
  | cons port ports ih =>
    cases fibers with
    | nil => exact restores_pure le_rfl
    | cons fiber fibers =>
      simp only [fillPorts]
      split
      · exact ih _ _ _
      · refine (restores_placeOne target _ fiber).bind fun answer _ => ?_
        cases answer with
        | error e => exact restores_pure ⟨le_rfl, fun _ _ => trivial⟩
        | ok _ =>
          refine Restores.mono (ih _ _ _) fun last hplaced => ⟨⟨?_, ?_⟩, fun h => h⟩
          · exact (Nat.le_succ _).trans hplaced
          · intro hnone hin
            have hadded : pass.report.placed + 1 ≤ last.report.placed := hplaced
            have := hnone hin
            omega

theorem restores_remoteTarget (record : Structure) (side : Side) :
    partner.Restores (remoteTarget record side).run
      (fun answer => ∀ target, answer = .ok target → target.inEditor = false) fun _ => True := by
  simp only [remoteTarget]
  split
  · exact restores_pure nofun
  · refine (restores_call _).attempt_quiet (fun ports _ => ?_) fun _ => nofun
    refine (restores_call _).attempt_quiet (fun rows _ => ?_) fun _ => nofun
    refine restores_pure fun target htarget => ?_
    cases htarget
    rfl

theorem restores_fillLater (side : Side) (later : List Structure) (fibers : List LabelledFiber)
    (report : FillReport) :
    partner.Restores (fillLater side later fibers report)
      (fun last => report.placed ≤ last.2.placed) fun _ => True := by
  induction later generalizing fibers report with
  | nil => exact restores_pure le_rfl
  | cons record later ih =>
    simp only [fillLater]
    split
    · exact restores_pure le_rfl
    · refine (restores_remoteTarget record side).bind fun answer htarget => ?_
      cases answer with
      | error e => exact restores_pure ⟨le_rfl, fun _ => trivial⟩
      | ok target =>
        have helsewhere := htarget target rfl
        dsimp only
        split
        · exact restores_pure ⟨le_rfl, fun _ => trivial⟩
        · refine Restores.after ?_ trivial
          refine (restores_fillPorts target side _ fibers [] { report }).bind fun pass hplaced => ?_
          split
          · exact restores_pure ⟨hplaced, by simp [helsewhere]⟩
          · exact Restores.mono (ih _ _) fun last hlast =>
              ⟨⟨hplaced.trans hlast, by simp [helsewhere]⟩, fun h => h⟩

theorem restores_fillCable (first : FillTarget) (later : List Structure) (side : Side)
    (fibers : List LabelledFiber) (report : FillReport) :
    partner.Restores (fillCable first later side fibers report) (fun _ => True)
      fun last => last.2.placed = 0 := by
  refine (restores_fillPorts first side _ fibers [] { report }).bind fun pass _ => ?_
  split
  · exact restores_pure ⟨trivial, fun hnone _ => hnone⟩
  · refine (restores_fillLater side later _ _).mono fun last hlast =>
      ⟨⟨trivial, fun hnone _ => ?_⟩, ?_⟩
    · omega
    · exact fun _ => trivial

theorem restores_cableFibers (cable : Cable) :
    partner.Restores (cableFibers cable).run (fun _ => True) fun _ => True := by
  simp only [cableFibers]
  split
  · exact (restores_call _).attempt_quiet (fun _ _ => restores_pure trivial) fun _ => trivial
  · exact restores_pure trivial

theorem restores_finishFill (kind : FillKind) (failure : Option Failure) (report : FillReport) :
    partner.Restores (finishFill kind failure report)
      (fun outcome => outcome.isSuccess = false → report.placed = 0) fun _ => True := by
  simp only [finishFill]
  split
  · split
    next hnone => exact restores_report fun _ => hnone
    next => exact restores_report nofun
  · split
    · exact restores_report nofun
    · exact restores_report nofun

end fills

/-! ### Work that needs the slot -/

section slot

variable {partner : Partner σ}

open Client

theorem restores_exclusively {refused job : Job α} {told failed : α → Prop}
    (hrefused : partner.Restores refused told failed) (h : partner.Restores job told failed) :
    partner.Restores (exclusively refused job) told failed := by
  refine restores_client fun c => ?_
  split
  · exact hrefused
  next slot _ =>
    refine (restores_update (f := ({ · with slot })) fun _ => rfl).bind_quiet fun _ _ =>
      h.bind fun value htold => ?_
    exact (restores_update (f := fun c => { c with slot := c.slot.release })
      fun _ => rfl).bind_quiet fun _ _ => restores_pure ⟨htold, fun hfailed => hfailed⟩

theorem restores_dropBundle (start : PortSide) (bundle : Bundle) :
    partner.Restores (dropBundle start bundle) (fun _ => True) (·.isSuccess = false) := by
  refine restores_exclusively (restores_report trivial) (restores_client fun c => ?_)
  split
  · exact restores_report trivial
  · split
    · exact restores_report trivial
    · split
      · exact restores_report trivial
      next target _ _ _ =>
        refine (restores_fillPorts target start.side _ _ [] _).bind fun pass _ => ?_
        refine (restores_finishFill .bundle _ _).mono fun outcome hplaced => ⟨⟨trivial, ?_⟩, ?_⟩
        · exact fun hfailed _ => hplaced hfailed
        · exact fun _ => trivial

theorem restores_dropCable (start : PortSide) (cable : Cable) (structures : List Structure) :
    partner.Restores (dropCable start cable structures) (fun _ => True) (·.isSuccess = false) := by
  refine restores_exclusively (restores_report trivial) (restores_client fun c => ?_)
  dsimp only
  split
  next selected target _ _ =>
    split
    · exact restores_report trivial
    · refine (restores_cableFibers cable).bind_quiet fun answer _ => ?_
      cases answer with
      | error e =>
        exact (restores_finishFill .cable _ _).mono fun _ _ => ⟨trivial, fun _ => trivial⟩
      | ok fibers =>
        dsimp only
        split
        · exact restores_report trivial
        · refine (restores_fillCable target _ start.side _ _).bind fun last _ => ?_
          refine (restores_finishFill .cable _ _).mono fun outcome hplaced => ⟨⟨trivial, ?_⟩, ?_⟩
          · exact fun hfailed => hplaced hfailed
          · exact fun _ => trivial
  · exact restores_report trivial

theorem restores_fetch (record : Structure) :
    partner.Restores (fetch record).run
      (fun answer => ∀ ports rows, answer = .ok (ports, rows) →
        partner.rule.Fits (.load record ports rows)) fun _ => True := by
  simp only [fetch]
  split
  · refine restores_pure fun ports rows hfetched => ?_
    cases hfetched
    exact .inr partner.rule.shown_nil
  · refine (restores_call _).attempt_quiet (fun ports _ => ?_) fun _ => nofun
    refine (restores_call _).attempt_quiet (fun rows hrows => ?_) fun _ => nofun
    refine restores_pure fun _ _ hfetched => ?_
    cases hfetched
    exact .inl hrows

theorem restores_select (record : Structure) :
    partner.Restores (select record) (fun _ => True) (· = false) := by
  refine restores_exclusively (restores_report trivial) ?_
  refine (restores_fetch record).bind_quiet fun answer hfetched => ?_
  cases answer with
  | error e => exact restores_report trivial
  | ok fetched =>
    exact (restores_apply (hfetched _ _ rfl)).bind fun _ _ => restores_pure ⟨trivial, nofun⟩

theorem restores_deselect : partner.Restores deselect (fun _ => True) (· = false) := by
  refine restores_exclusively (restores_report trivial) ?_
  have hfits : partner.rule.Fits .unload := trivial
  exact (restores_apply hfits).bind fun _ _ => restores_pure ⟨trivial, nofun⟩

end slot

/-! ### Merge groups -/

section groups

variable {partner : Partner σ}

open Client

theorem restores_toggleMergeMode :
    partner.Restores toggleMergeMode (fun _ => True) fun _ => False := by
  have hfits : partner.rule.Fits .toggleMergeMode := trivial
  exact (restores_apply hfits).bind fun _ _ => restores_client fun c =>
    restores_pure ⟨trivial, False.elim⟩

theorem restores_togglePort (spot : PortSide) :
    partner.Restores (togglePort spot) (fun _ => True) fun _ => False := by
  have hfits : partner.rule.Fits (.togglePort spot) := trivial
  exact (restores_apply hfits).bind fun _ _ => restores_client fun c =>
    restores_pure ⟨trivial, False.elim⟩

theorem restores_relisted (write : Call) (id : StructureId) :
    partner.Restores (Attempt.call write >>= fun _ => Attempt.call (.rowsOf id)).run
      (partner.rule.Hears (.rowsOf id)) fun _ => True :=
  (restores_call write).attempt_quiet (fun _ _ => restores_call _) fun _ => trivial

theorem restores_mergeSelected : partner.Restores mergeSelected (fun _ => True) (· = false) := by
  refine restores_client fun c => ?_
  dsimp only
  split
  · exact restores_report trivial
  next id side ports _ =>
    refine (restores_relisted (.merge id ports side) id).bind_quiet fun answer hlisted => ?_
    cases answer with
    | error e => exact restores_report trivial
    | ok rows =>
      have hclear : partner.rule.Fits .clearSelection := trivial
      have hrows : partner.rule.Fits (.replaceRows id rows) := .inl hlisted
      exact (restores_apply hrows).bind fun _ _ => (restores_apply hclear).bind fun _ _ =>
        restores_report ⟨⟨trivial, nofun⟩, nofun⟩

theorem restores_unmerge (group : MergeGroupId) (ports : Option (List PortNumber)) :
    partner.Restores (unmerge group ports) (fun _ => True) (· = false) := by
  refine restores_client fun c => ?_
  dsimp only
  split
  · exact restores_pure trivial
  next id _ =>
    split
    · exact restores_pure trivial
    · refine (restores_relisted (.unmerge group _) id).bind_quiet fun answer hlisted => ?_
      cases answer with
      | error e => exact restores_report trivial
      | ok rows =>
        have hrows : partner.rule.Fits (.replaceRows id rows) := .inl hlisted
        exact (restores_apply hrows).bind fun _ _ => restores_report ⟨trivial, nofun⟩

theorem restores_uploadToGroup (id : StructureId) (group : MergeGroupId) (spot : PortSide)
    (fibers : List Fiber) (cableName : String) :
    partner.Restores (uploadToGroup id group spot fibers cableName).run
      (fun _ => True) Failing := by
  simp only [uploadToGroup]
  split
  · exact restores_pure trivial
  next first _ =>
    have hfits : partner.rule.Fits (.place id spot (.ofFiber first cableName)) := trivial
    refine restores_optimistically rfl hfits ?_
    refine (restores_call _).attempt_quiet (fun _ _ => ?_) fun _ => trivial
    rw [map_eq_pure_bind]
    exact (restores_call _).attempt_quiet (fun rows hrows => restores_pure (.inl hrows))
      fun _ => trivial

theorem restores_fillGroup (id : StructureId) (group : MergeGroupId) (ports : List PortNumber)
    (spot : PortSide) (fibers : List Fiber) (cableName : String) :
    partner.Restores (fillGroup id group ports spot fibers cableName) (fun _ => True)
      (· = false) := by
  refine (restores_uploadToGroup id group spot _ cableName).bind fun answer _ => ?_
  cases answer with
  | ok _ => exact restores_report ⟨trivial, nofun⟩
  | error _ => exact restores_report ⟨trivial, fun _ => trivial⟩

theorem restores_dropOnGroup (group : MergeGroupId) (side : Side) (drop : Drop) :
    partner.Restores (dropOnGroup group side drop) (fun _ => True) (· = false) := by
  refine restores_client fun c => ?_
  dsimp only
  split
  · exact restores_pure trivial
  · split
    · exact restores_report trivial
    · cases drop with
      | fiber fiber => exact restores_dropFiber _ fiber
      | bundle bundle => exact restores_fillGroup _ _ _ _ _ _
      | cable cable =>
        refine (restores_cableFibers cable).bind_quiet fun answer _ => ?_
        cases answer with
        | ok fibers => exact restores_fillGroup _ _ _ _ _ _
        | error _ => exact restores_report trivial
      | mounted _ | component _ => exact restores_report trivial

end groups

/-! ### Operations -/

variable {partner : Partner σ}

theorem restores_dropOnPort (spot : PortSide) (drop : Drop) (structures : List Structure) :
    partner.Restores (Client.dropOnPort spot drop structures) (fun _ => True)
      (·.isSuccess = false) := by
  refine restores_client fun c => ?_
  split
  · exact restores_pure trivial
  · cases drop with
    | fiber fiber =>
      exact (restores_dropFiber spot fiber).bind fun _ _ => restores_pure ⟨trivial, id⟩
    | bundle bundle =>
      exact (restores_dropBundle spot bundle).bind fun _ _ => restores_pure ⟨trivial, id⟩
    | cable cable =>
      exact (restores_dropCable spot cable structures).bind fun _ _ => restores_pure ⟨trivial, id⟩
    | mounted _ | component _ => exact restores_report trivial

theorem restores_job (operation : Operation) :
    partner.Restores operation.job (fun _ => True) fun outcome =>
      operation.undoes = true ∧ outcome.isSuccess = false := by
  have hundone : ∀ {α : Type} {job : Job α} {f : α → Outcome},
      partner.Restores job (fun _ => True) (fun value => (f value).isSuccess = false) →
      partner.Restores (f <$> job) (fun _ => True) fun outcome =>
        operation.undoes = true ∧ outcome.isSuccess = false := fun h =>
    Restores.map (h.mono fun _ _ => ⟨trivial, And.right⟩)
  have hkept : ∀ {α : Type} {job : Job α} {f : α → Outcome}, operation.undoes = false →
      partner.Restores job (fun _ => True) (fun _ => False) →
      partner.Restores (f <$> job) (fun _ => True) fun outcome =>
        operation.undoes = true ∧ outcome.isSuccess = false := fun hno h =>
    Restores.map (h.mono fun _ _ => ⟨trivial, fun hfailed => by simp [hno] at hfailed⟩)
  cases operation with
  | select record => exact hundone (restores_select record)
  | deselect => exact hundone restores_deselect
  | dropFiber spot fiber => exact hundone (restores_dropFiber spot fiber)
  | clearPort spot => exact hundone (restores_clearPort spot)
  | moveFiber source target fiber => exact hkept rfl (restores_moveFiber source target fiber)
  | dropBundle start bundle => exact hundone (restores_dropBundle start bundle)
  | dropCable start cable structures => exact hundone (restores_dropCable start cable structures)
  | dropOnPort spot drop structures => exact hundone (restores_dropOnPort spot drop structures)
  | toggleMergeMode => exact hkept rfl restores_toggleMergeMode
  | togglePort spot => exact hkept rfl (restores_togglePort spot)
  | mergeSelected => exact hundone restores_mergeSelected
  | unmerge group ports => exact hundone (restores_unmerge group ports)
  | dropOnGroup group side drop => exact hundone (restores_dropOnGroup group side drop)

end Partner

/-! ### Rows in order -/

section inOrder

variable {rows : List Splice}

def InOrder (rows : List Splice) : Prop :=
  rows.Pairwise (·.port ≤ ·.port)

theorem InOrder.sortRows_eq (h : InOrder rows) : sortRows rows = rows :=
  sortBy_eq_self (h.imp fun hle => decide_eq_true hle)

theorem InOrder.vacateAll (h : InOrder rows) (ports : List PortNumber) (side : Side) :
    InOrder (vacateAll ports side rows) := by
  refine List.pairwise_map.1 ?_
  rw [map_port_vacateAll]
  exact List.pairwise_map.2 h

def RowsRule.inOrder : RowsRule where
  shown := InOrder
  listed _ := True
  told _ := True
  shown_nil := .nil
  sortRows_eq := InOrder.sortRows_eq
  replaced _ := pairwise_sortRows _
  placed _ _ _ _ _ _ := pairwise_sortRows _
  vacated ports side h := h.vacateAll ports side
  confirmed _ _ := pairwise_sortRows _
  pruned h := List.Pairwise.filter _ h

end inOrder

theorem RowsRule.hears_inOrder (call : Call) (answer : Except Failure call.Answer) :
    RowsRule.inOrder.Hears call answer := by
  cases call <;> cases answer <;> trivial

def Partner.anyone {σ : Type} (authority : Authority σ) : Partner σ where
  authority
  final _ := True
  closed _ _ _ := trivial
  rule := .inOrder
  good _ := True
  answers _ call _ _ := ⟨trivial, RowsRule.hears_inOrder call _⟩

/-! ### Runs -/

section runs

variable {σ : Type} (authority : Authority σ)

def Operation.after (line : Client × σ) (operation : Operation) : Client × σ :=
  (operation.job.run authority line.1 line.2).2

/-- The operation reports a failure; of a move, the placing that it begins with has failed. -/
def Operation.Fails (line : Client × σ) (operation : Operation) : Prop :=
  (operation.job.run authority line.1 line.2).1.isSuccess = false ∧
    match operation with
    | moveFiber source target fiber => source ≠ target →
        ∀ id, line.1.editor.structureId = some id →
          Failing ((Client.assign id target fiber).run.run authority line.1 line.2).1
    | operation => operation.undoes = true

theorem inOrder_after {line : Client × σ} (h : InOrder line.1.editor.rows) (operation : Operation) :
    InOrder (operation.after authority line).1.editor.rows := by
  have hrestores : (Partner.anyone authority).Restores operation.job _ _ :=
    Partner.restores_job operation
  exact (hrestores line.1 line.2 trivial h trivial).shown

theorem editor_of_moveFiber {c : Client} {s : σ} (h : InOrder c.editor.rows)
    {source target : PortSide} {fiber : LabelledFiber}
    (hfails : source ≠ target → ∀ id, c.editor.structureId = some id →
      Failing ((Client.assign id target fiber).run.run authority c s).1) :
    ((Client.moveFiber source target fiber).run authority c s).2.1.editor = c.editor := by
  rw [Client.moveFiber]
  split
  next => rfl
  next hne =>
    rw [Job.run_bind, Job.run_client]
    dsimp only
    split
    next => rfl
    next id hid =>
      have hrestores : (Partner.anyone authority).Restores (Client.assign id target fiber).run
        (fun _ => True) Failing := Partner.restores_assign target fiber
      have heditor := (hrestores c s trivial h trivial).editor
      have hfailing := hfails hne id hid
      change Failing ((Client.assign id target fiber).run.run authority c s).1 →
        ((Client.assign id target fiber).run.run authority c s).2.1.editor = c.editor at heditor
      rw [Job.run_bind]
      cases hplaced : (Client.assign id target fiber).run.run authority c s with
      | mk answer rest =>
        rw [hplaced] at heditor hfailing
        cases answer with
        | ok _ => exact hfailing.elim
        | error e => exact heditor hfailing

theorem editor_of_fails {line : Client × σ} (h : InOrder line.1.editor.rows) {operation : Operation}
    (hfails : operation.Fails authority line) :
    (operation.after authority line).1.editor = line.1.editor := by
  obtain ⟨hfailed, hundoes⟩ := hfails
  have hrestores : (Partner.anyone authority).Restores operation.job _ _ :=
    Partner.restores_job operation
  cases operation with
  | moveFiber source target fiber =>
    simp only [Operation.after, Operation.job, Job.run_map]
    exact editor_of_moveFiber authority h hundoes
  | _ => exact (hrestores line.1 line.2 trivial h trivial).editor ⟨hundoes, hfailed⟩

/-- Whatever the authority answers, an operation that fails leaves the editor as it found it. -/
theorem editor_restored (settings : ClientSettings) (ids : IdSource) (s : σ)
    (before : List Operation) (operation : Operation) :
    let line := before.foldl (Operation.after authority) (Client.ofSettings settings ids, s)
    operation.Fails authority line → (operation.after authority line).1.editor = line.1.editor := by
  intro line hfails
  have hlines : ∀ (before : List Operation) (line : Client × σ), InOrder line.1.editor.rows →
      InOrder (before.foldl (Operation.after authority) line).1.editor.rows := by
    intro before
    induction before with
    | nil => exact fun _ h => h
    | cons operation before ih => exact fun line h => ih _ (inOrder_after authority h operation)
  have hempty : InOrder (Client.ofSettings settings ids).editor.rows := .nil
  exact editor_of_fails authority (hlines before _ hempty) hfails

def muddled : Authority Server
  | s, .portsOf id => s.answer (.portsOf id)
  | s, .rowsOf id =>
    let row (port : PortNumber) (n : Nat) : Splice :=
      { id := .persisted ⟨BitVec.ofNat 128 n⟩, structureId := id, port }
    (.ok [row 3 1, row 1 2, row 1 3], s)
  | s, _ => (.error .noFibers, s)

theorem editor_restored_muddled :
    let line := [Operation.select Server.smallTray].foldl (Operation.after muddled)
      (Client.ofSettings {} (.numbered 1 0), Server.ofPlan {} Server.smallPlan (.numbered 0 0))
    let operation := Operation.dropFiber ⟨2, .a⟩ ⟨Server.smallFiber 1, "cable"⟩
    line.1.editor.rows.map (·.port) = [1, 1, 3] ∧ operation.Fails muddled line ∧
      (operation.after muddled line).1.editor = line.1.editor := by
  intro line operation
  have hfails : operation.Fails muddled line := ⟨by decide +kernel, rfl⟩
  exact ⟨by decide +kernel, hfails, editor_restored muddled _ _ _ _ _ hfails⟩

end runs

end CrossConnect
