import CrossConnect.Proofs.Client.Notices
import CrossConnect.Proofs.Client.Operations
import CrossConnect.Proofs.Client.Reached

/-!
Failures of validation. The client finds them before it asks anything of the authority, and the
authority itself validates the arguments of the calls about merge groups alone.
-/
namespace CrossConnect

open Client

/-! ### What the authority validates -/

def Call.isGrouped : Call → Bool
  | merge .. | unmerge .. | upload .. => true
  | _ => false

def NeverInvalid {α : Type} (x : Except Failure α) : Prop :=
  ∀ e, x = .error e → e.isValidation = false

section answers

variable {α β : Type}

theorem neverInvalid_ok (value : α) : NeverInvalid (.ok value : Except Failure α) :=
  nofun

theorem neverInvalid_error {e : Failure} (h : e.isValidation = false) :
    NeverInvalid (.error e : Except Failure α) := by
  rintro e' ⟨⟩
  exact h

theorem NeverInvalid.bind {x : Except Failure α} {next : α → Except Failure β} (h : NeverInvalid x)
    (hnext : ∀ value, NeverInvalid (next value)) : NeverInvalid (x >>= next) := by
  cases x with
  | ok value => exact hnext value
  | error e => exact neverInvalid_error (h e rfl)

theorem NeverInvalid.map {x : Except Failure α} (h : NeverInvalid x) (f : α → β) :
    NeverInvalid (f <$> x) := by
  rw [map_eq_pure_bind]
  exact h.bind fun _ => neverInvalid_ok _

namespace Registry

variable (r : Registry)

theorem neverInvalid_structure? (id : StructureId) : NeverInvalid (r.structure? id) := by
  rw [structure?]
  split
  · exact neverInvalid_ok _
  · exact neverInvalid_error rfl

theorem neverInvalid_cable? (id : CableId) : NeverInvalid (r.cable? id) := by
  rw [cable?]
  split
  · exact neverInvalid_ok _
  · exact neverInvalid_error rfl

theorem neverInvalid_componentType? (id : ComponentTypeId) :
    NeverInvalid (r.componentType? id) := by
  rw [componentType?]
  split
  · exact neverInvalid_ok _
  · exact neverInvalid_error rfl

theorem neverInvalid_requirePort (id : StructureId) (spot : PortSide) :
    NeverInvalid (r.requirePort id spot) := by
  refine (r.neverInvalid_structure? id).bind fun record => ?_
  split
  · refine (r.neverInvalid_componentType? _).bind fun c => ?_
    split
    · exact neverInvalid_ok _
    · exact neverInvalid_error rfl
  · exact neverInvalid_error rfl

theorem neverInvalid_terminate (fiber : FiberRef) : NeverInvalid (r.terminate fiber) := by
  refine (r.neverInvalid_cable? _).bind fun cable => ?_
  split
  · exact neverInvalid_ok _
  · exact neverInvalid_error rfl

theorem neverInvalid_perform (limits : Limits) {call : Call} (h : call.isGrouped = false) :
    NeverInvalid (r.perform limits call) := by
  cases call with
  | portsOf id => exact ((r.neverInvalid_componentType? id).map _).map _
  | rowsOf id => exact ((r.neverInvalid_structure? id).map _).map _
  | fibersOf id => exact ((r.neverInvalid_cable? id).map _).map _
  | place p =>
    exact (r.neverInvalid_requirePort _ _).bind fun _ => (r.neverInvalid_terminate _).bind fun _ =>
      neverInvalid_ok _
  | clear id spot => exact (r.neverInvalid_structure? id).bind fun _ => neverInvalid_ok _
  | merge | unmerge | upload => cases h

end Registry

theorem Server.neverInvalid_answer (s : Server) {call : Call} (h : call.isGrouped = false) :
    NeverInvalid (s.answer call).1 := by
  simp only [answer]
  split
  · exact neverInvalid_error rfl
  · have hperform := s.registry.neverInvalid_perform s.limits h
    split
    · exact neverInvalid_ok _
    next e he => exact neverInvalid_error (hperform e he)

theorem Server.registry_of_error {s : Server} {call : Call} {e : Failure}
    (h : (s.answer call).1 = .error e) : (s.answer call).2.registry = s.registry := by
  obtain ⟨-, ⟨-, hsame⟩ | ⟨a, hok, -⟩⟩ := s.answer_cases call
  · exact hsame
  · rw [h] at hok
    cases hok

theorem Server.registry_of_read (s : Server) {call : Call} (hread : call.isWrite = false) :
    (s.answer call).2.registry = s.registry := by
  obtain ⟨-, ⟨-, hsame⟩ | ⟨a, -, hperform⟩⟩ := s.answer_cases call
  · exact hsame
  · exact Registry.perform_read hread hperform

end answers

/-! ### Jobs that do not fail by validation -/

def Editor.Has (editor : Editor) (spot : PortSide) : Prop :=
  spot.port ∈ Occupancy.sidePorts editor.ports spot.side

theorem Editor.Has.of_ports {editor editor' : Editor} {spot : PortSide} (h : editor.Has spot)
    (hports : editor'.ports = editor.ports) : editor'.Has spot := by
  rw [Has, hports]
  exact h

namespace Job

variable {α β : Type} {c : Client} {s : Server} {failure : α → Option Failure}
  {failure' : β → Option Failure}

/-- The job is silent, keeps the ports of the editor and does not end with a failure of
validation. -/
def Valid (job : Job α) (failure : α → Option Failure) (c : Client) (s : Server) : Prop :=
  job.Tells Server.answer (fun a => a.notices = [] ∧ a.client.editor.ports = c.editor.ports ∧
    ∀ e ∈ failure a.value, e.isValidation = false) c s

theorem valid_pure {value : α} (h : ∀ e ∈ failure value, e.isValidation = false) :
    (pure value : Job α).Valid failure c s :=
  tells_pure ⟨rfl, rfl, h⟩

theorem valid_ok (value : α) : (pure (.ok value) : Job (Except Failure α)).Valid failureOf c s :=
  valid_pure fun _ h => absurd h (Option.not_mem_none _)

theorem Valid.bind_of {job : Job α} {next : α → Job β} {p : α → Prop} (h : job.Valid failure c s)
    (hp : job.Tells Server.answer (fun a => p a.value) c s)
    (hnext : ∀ value c' s', c'.editor.ports = c.editor.ports →
      (∀ e ∈ failure value, e.isValidation = false) → p value → (next value).Valid failure' c' s') :
    (job >>= next).Valid failure' c s := by
  refine Tells.bind (Tells.and (p := fun value _ => p value) h hp) fun a ha => ?_
  obtain ⟨⟨hsilent, hports, hvalid⟩, hvalue⟩ := ha
  refine (hnext a.value a.client a.authority hports hvalid hvalue).mono fun b hb => ⟨?_, ?_, hb.2.2⟩
  · simp [Account.followedBy, hsilent, hb.1]
  · exact hb.2.1.trans hports

theorem Valid.bind {job : Job α} {next : α → Job β} (h : job.Valid failure c s)
    (hnext : ∀ value c' s', c'.editor.ports = c.editor.ports →
      (∀ e ∈ failure value, e.isValidation = false) → (next value).Valid failure' c' s') :
    (job >>= next).Valid failure' c s :=
  h.bind_of (p := fun _ => True) (Tells.mono h fun _ _ => trivial)
    fun value c' s' hports hvalid _ => hnext value c' s' hports hvalid

theorem Valid.attempt {attempt : Attempt α} {next : α → Attempt β}
    (h : attempt.run.Valid failureOf c s)
    (hnext : ∀ value c' s', c'.editor.ports = c.editor.ports →
      (next value).run.Valid failureOf c' s') :
    (attempt >>= next).run.Valid failureOf c s := by
  refine Valid.bind h fun answer c' s' hports hvalid => ?_
  cases answer with
  | ok value => exact hnext value c' s' hports
  | error e => exact valid_pure hvalid

theorem Valid.map {attempt : Attempt α} {f : α → β} (h : attempt.run.Valid failureOf c s) :
    (f <$> attempt).run.Valid failureOf c s := by
  rw [map_eq_pure_bind]
  exact h.attempt fun _ _ _ _ => valid_pure nofun

theorem valid_apply {edit : Edit} {id : StructureId} (hscope : edit.scope = some id) {value : α}
    (h : ∀ e ∈ failure value, e.isValidation = false) :
    (do apply edit; return value : Job α).Valid failure c s := by
  refine Tells.bind (tells_update (fun _ => rfl) (Eq.refl _)) fun b hb =>
    hb ▸ tells_pure ⟨rfl, ?_, h⟩
  simp only [Editor.ports, Account.followedBy, selected_apply hscope]

theorem valid_call {call : Call} (h : call.isGrouped = false) :
    (Attempt.call call).run.Valid failureOf c s := by
  refine tells_call ⟨rfl, rfl, fun e he => ?_⟩
  refine s.neverInvalid_answer h e ?_
  cases hanswer : (s.answer call).1 with
  | ok a =>
    rw [hanswer] at he
    cases he
  | error e' =>
    rw [hanswer] at he
    obtain rfl := Option.some.inj he
    rfl

end Job

open Job

section attempts

variable {c : Client} {s : Server} {id : StructureId}

theorem valid_settleMerged (merged : Bool) (otherwise : Settlement) :
    (settleMerged id merged otherwise).run.Valid failureOf c s := by
  cases merged with
  | true => exact (valid_call rfl).map
  | false => exact valid_pure nofun

theorem valid_optimistically {edit : Edit} (hscope : edit.scope = some id)
    {remote : Attempt Settlement} (h : ∀ c s, remote.run.Valid failureOf c s) :
    (optimistically id edit remote).run.Valid failureOf c s := by
  have hopen : (Job.apply edit).Valid (fun _ => none) c s := by
    refine tells_update (fun _ => rfl) ⟨rfl, ?_, nofun⟩
    simp only [Editor.ports, selected_apply hscope]
  refine tells_client (fun _ => rfl) (hopen.bind fun _ c' s' _ _ => ?_)
  refine (h c' s').bind fun answer c'' s'' _ hvalid => ?_
  cases answer with
  | ok settlement => exact valid_apply (settlement.scope_edit id) nofun
  | error e =>
    exact valid_apply (show (Edit.replaceRows id c.editor.rows).scope = some id from rfl) hvalid

theorem valid_checkMerged {spot : PortSide} (hport : c.editor.Has spot) :
    (checkMerged spot).run.Valid failureOf c s := by
  have hchecked : requirePort c.editor spot = .ok () := if_pos hport
  refine tells_client (fun _ => rfl) (tells_pure ⟨rfl, rfl, ?_⟩)
  rw [hchecked]
  nofun

theorem valid_assign {spot : PortSide} (hport : c.editor.Has spot) (fiber : LabelledFiber) :
    (assign id spot fiber).run.Valid failureOf c s :=
  (valid_checkMerged hport).attempt fun _ _ _ _ => valid_optimistically rfl fun _ _ =>
    Valid.attempt (valid_call rfl) fun _ _ _ _ => valid_settleMerged _ _

theorem valid_vacate {spot : PortSide} (hport : c.editor.Has spot) :
    (vacate id spot).run.Valid failureOf c s :=
  (valid_checkMerged hport).attempt fun _ _ _ _ => valid_optimistically rfl fun _ _ =>
    Valid.attempt (valid_call rfl) fun _ _ _ _ => valid_settleMerged _ _

theorem tells_missing {α : Type} {spot : PortSide} (hport : ¬c.editor.Has spot)
    (next : Bool → Attempt α) :
    (checkMerged spot >>= next).run.Tells Server.answer
      (Eq { value := .error (.missingLocalPort spot), client := c, authority := s }) c s := by
  have hchecked : requirePort c.editor spot = .error (.missingLocalPort spot) := if_neg hport
  have hmissing : (checkMerged spot).run.Tells Server.answer
      (Eq { value := .error (.missingLocalPort spot), client := c, authority := s }) c s := by
    refine tells_client (fun _ => rfl) (tells_pure ?_)
    rw [hchecked]
    rfl
  refine hmissing.attempt ?_ ?_
  · rintro a value rfl ⟨⟩
  · rintro a e rfl ⟨⟩
    rfl

theorem tells_assign_missing {spot : PortSide} (hport : ¬c.editor.Has spot)
    (fiber : LabelledFiber) :
    (assign id spot fiber).run.Tells Server.answer
      (Eq { value := .error (.missingLocalPort spot), client := c, authority := s }) c s :=
  tells_missing hport _

theorem tells_vacate_missing {spot : PortSide} (hport : ¬c.editor.Has spot) :
    (vacate id spot).run.Tells Server.answer
      (Eq { value := .error (.missingLocalPort spot), client := c, authority := s }) c s :=
  tells_missing hport _

/-! ### Fills -/

theorem valid_fillPorts {target : FillTarget} {side : Side} (ports : List PortNumber)
    (hports : target.inEditor = true → ∀ port ∈ ports, c.editor.Has ⟨port, side⟩)
    (fibers : List LabelledFiber) (filled : List MergeGroupId) (pass : FillPass)
    (hpass : pass.failure = none) :
    (fillPorts target side ports fibers filled pass).Valid (·.failure) c s := by
  have hdone : ∀ e ∈ pass.failure, e.isValidation = false := by
    rw [hpass]
    nofun
  induction ports generalizing c s fibers filled pass with
  | nil => exact valid_pure hdone
  | cons port ports ih =>
    cases fibers with
    | nil => exact valid_pure hdone
    | cons fiber fibers =>
      have hplace : (placeOne target ⟨port, side⟩ fiber).run.Valid failureOf c s := by
        rw [placeOne]
        split
        next hin => exact valid_assign (hports hin port List.mem_cons_self) fiber
        next => exact Valid.attempt (valid_call rfl) fun _ _ _ _ => valid_ok _
      have hrest : target.inEditor = true → ∀ other ∈ ports, c.editor.Has ⟨other, side⟩ :=
        fun hin other hmem => hports hin other (List.mem_cons_of_mem _ hmem)
      simp only [fillPorts]
      split
      · exact ih hrest _ _ _ hpass hdone
      · refine hplace.bind fun answer c' s' hsame hvalid => ?_
        cases answer with
        | ok _ =>
          exact ih (fun hin other hmem => (hrest hin other hmem).of_ports hsame) _ _ _ hpass hdone
        | error e => exact valid_pure hvalid

theorem valid_remoteTarget {record : Structure} (hexposes : record.exposesPorts = true)
    (side : Side) : (remoteTarget record side).run.Valid failureOf c s := by
  rw [remoteTarget]
  split
  next hnone =>
    rw [Structure.exposesPorts, hnone] at hexposes
    cases hexposes
  next =>
    exact Valid.attempt (valid_call rfl) fun _ _ _ _ =>
      Valid.attempt (valid_call rfl) fun _ _ _ _ => valid_ok _

theorem tells_remoteTarget (record : Structure) (side : Side) :
    (remoteTarget record side).run.Tells Server.answer
      (fun a => ∀ target, a.value = .ok target → target.inEditor = false) c s := by
  rw [remoteTarget]
  split
  · refine tells_pure ?_
    rintro _ ⟨⟩
  · have hcall : ∀ call c s,
        (Attempt.call call).run.Tells Server.answer (fun _ => True) c s :=
      fun _ _ _ => tells_call trivial
    have hnone : ∀ (e : Failure) (target : FillTarget), Except.error e = .ok target →
        target.inEditor = false := by
      rintro _ _ ⟨⟩
    refine (hcall _ _ _).attempt (fun _ ports _ _ => ?_) fun _ e _ _ => hnone e
    refine (hcall _ _ _).attempt (fun _ rows _ _ => ?_) fun _ e _ _ => hnone e
    refine tells_pure ?_
    rintro target ⟨⟩
    rfl

theorem valid_fillLater (side : Side) (later : List Structure)
    (hexpose : ∀ record ∈ later, record.exposesPorts = true) (fibers : List LabelledFiber)
    (report : FillReport) : (fillLater side later fibers report).Valid (·.1) c s := by
  induction later generalizing c s fibers report with
  | nil => exact valid_pure nofun
  | cons record later ih =>
    have hlater : ∀ record ∈ later, record.exposesPorts = true :=
      fun record hmem => hexpose record (List.mem_cons_of_mem _ hmem)
    have htarget : (remoteTarget record side).run.Valid failureOf c s :=
      valid_remoteTarget (hexpose record List.mem_cons_self) side
    simp only [fillLater]
    split
    · exact valid_pure nofun
    · refine htarget.bind_of
        (p := fun answer => ∀ target, answer = .ok target → target.inEditor = false)
        (tells_remoteTarget record side) fun answer c' s' _ hvalid helsewhere => ?_
      cases answer with
      | error e => exact valid_pure hvalid
      | ok target =>
        dsimp only
        split
        · exact valid_pure nofun
        · have hin : target.inEditor = true → ∀ port ∈ target.ports, c'.editor.Has ⟨port, side⟩ :=
            fun hin => by
              rw [helsewhere target rfl] at hin
              cases hin
          refine (valid_fillPorts target.ports hin fibers [] { report } rfl).bind
            fun pass c'' s'' _ hvalid => ?_
          cases hfailure : pass.failure with
          | some e =>
            rw [hfailure] at hvalid
            exact valid_pure hvalid
          | none => exact ih hlater _ _

theorem valid_fillCable {first : FillTarget} {later : List Structure} {side : Side}
    (hports : first.inEditor = true → ∀ port ∈ first.ports, c.editor.Has ⟨port, side⟩)
    (hexpose : ∀ record ∈ later, record.exposesPorts = true) (fibers : List LabelledFiber)
    (report : FillReport) : (fillCable first later side fibers report).Valid (·.1) c s := by
  refine (valid_fillPorts first.ports hports fibers [] { report } rfl).bind
    fun pass c' s' _ hvalid => ?_
  cases hfailure : pass.failure with
  | some e =>
    rw [hfailure] at hvalid
    exact valid_pure hvalid
  | none => exact valid_fillLater side later hexpose _ _

theorem has_localTarget {editor : Editor} {start : PortSide} {target : FillTarget}
    (h : localTarget editor start = some target) {port : PortNumber} (hport : port ∈ target.ports) :
    editor.Has ⟨port, start.side⟩ := by
  simp only [localTarget] at h
  obtain ⟨id, -, rfl⟩ := Option.map_eq_some_iff.1 h
  exact (List.mem_filter.1 ((List.takeWhile_sublist _).mem hport)).1

theorem valid_fetch (record : Structure) : (fetch record).run.Valid failureOf c s := by
  rw [fetch]
  split
  · exact valid_ok _
  · exact Valid.attempt (valid_call rfl) fun _ _ _ _ =>
      Valid.attempt (valid_call rfl) fun _ _ _ _ => valid_ok _

theorem valid_cableFibers (cable : Cable) : (cableFibers cable).run.Valid failureOf c s := by
  rw [cableFibers]
  split
  · exact Valid.attempt (valid_call rfl) fun _ _ _ _ => valid_ok _
  · exact Valid.attempt (valid_ok _) fun _ _ _ _ => valid_ok _

end attempts

/-! ### Operations that tell of no such failure -/

theorem FailureKind.code_eq_validation {kind : FailureKind} :
    kind.code = FailureKind.validation.code ↔ kind = .validation := by
  cases kind <;> decide

/-- The user is told of a failure of validation. -/
def Invalid (notices : List Notice) : Prop :=
  ∃ notice ∈ notices, notice.code = some FailureKind.validation.code

instance (notices : List Notice) : Decidable (Invalid notices) :=
  inferInstanceAs (Decidable (∃ notice ∈ notices, notice.code = some FailureKind.validation.code))

theorem invalid_ofFailure {context : String} {e : Failure} :
    Invalid [.ofFailure context e] ↔ e.isValidation = true := by
  simp [Invalid, Notice.ofFailure, FailureKind.code_eq_validation, Failure.isValidation]

theorem not_invalid_of_code {notice : Notice} (h : notice.code = none) : ¬Invalid [notice] := by
  simp [Invalid, h]

namespace Job

variable {α β : Type} {c : Client} {s : Server} {failure : α → Option Failure}

def Blameless (job : Job α) (c : Client) (s : Server) : Prop :=
  job.Tells Server.answer (fun a => ¬Invalid a.notices) c s

theorem blameless_pure (value : α) : (pure value : Job α).Blameless c s :=
  tells_pure (by simp [Invalid])

theorem blameless_report {notice : Notice} (h : notice.code = none) (value : α) :
    (do notify notice; return value : Job α).Blameless c s :=
  tells_report (not_invalid_of_code h)

theorem blameless_failed {context : String} {e : Failure} (h : e.isValidation = false) (value : α) :
    (do notify (.ofFailure context e); return value : Job α).Blameless c s :=
  tells_report (mt invalid_ofFailure.1 (by simp [h]))

theorem blameless_update {f : Client → Client} {next : Unit → Job α}
    (hblind : ∀ log, f (c.withLog log) = (f c).withLog log) (h : (next ()).Blameless (f c) s) :
    (update f >>= next).Blameless c s :=
  Tells.bind (tells_update hblind (Eq.refl _)) fun _ hb => hb ▸ h

theorem Valid.blameless {job : Job α} {next : α → Job β} (h : job.Valid failure c s)
    (hnext : ∀ value c' s', c'.editor.ports = c.editor.ports →
      (∀ e ∈ failure value, e.isValidation = false) → (next value).Blameless c' s') :
    (job >>= next).Blameless c s := by
  refine Tells.bind h fun a ha => (hnext a.value _ _ ha.2.1 ha.2.2).mono fun b hb => ?_
  simpa [Account.followedBy, ha.1] using hb

theorem Blameless.map {job : Job α} {f : α → β} (h : job.Blameless c s) :
    (f <$> job).Blameless c s :=
  Tells.map h

end Job

section blameless

variable {c : Client} {s : Server}

theorem blameless_exclusively {α : Type} {refused job : Job α} (hrefused : refused.Blameless c s)
    (h : ∀ c', c'.editor = c.editor → job.Blameless c' s) :
    (exclusively refused job).Blameless c s := by
  refine tells_client (fun _ => rfl) ?_
  split
  · exact hrefused
  next slot _ =>
    refine blameless_update (fun _ => rfl) ?_
    refine (h { c with slot } rfl).bind fun a ha => ?_
    refine Tells.bind (tells_update (fun _ => rfl) (Eq.refl _)) fun _ hb => hb ▸ tells_pure ?_
    simpa [Account.followedBy] using ha

theorem blameless_rejectFill (reason : String) : (rejectFill reason).Blameless c s :=
  blameless_report rfl _

theorem blameless_finishFill (kind : FillKind) {failure : Option Failure} (report : FillReport)
    (h : ∀ e ∈ failure, e.isValidation = false) :
    (finishFill kind failure report).Blameless c s := by
  simp only [finishFill]
  cases failure with
  | some e =>
    dsimp only
    split
    · exact blameless_failed (h e rfl) _
    · exact blameless_failed (h e rfl) _
  | none =>
    dsimp only
    split
    · exact blameless_report rfl _
    · exact blameless_report rfl _

theorem blameless_dropBundle (start : PortSide) (bundle : Bundle) :
    (dropBundle start bundle).Blameless c s := by
  refine blameless_exclusively (blameless_rejectFill _) fun c' _ => tells_client (fun _ => rfl) ?_
  split
  · exact blameless_rejectFill _
  next target htarget =>
    split
    · exact blameless_rejectFill _
    · split
      · exact blameless_rejectFill _
      · have hports : target.inEditor = true →
            ∀ port ∈ target.ports, c'.editor.Has ⟨port, start.side⟩ :=
          fun _ _ hport => has_localTarget htarget hport
        exact Valid.blameless (valid_fillPorts _ hports _ [] _ rfl) fun _ _ _ _ hvalid =>
          blameless_finishFill _ _ hvalid

theorem blameless_dropCable (start : PortSide) (cable : Cable) (structures : List Structure) :
    (dropCable start cable structures).Blameless c s := by
  refine blameless_exclusively (blameless_rejectFill _) fun c' _ => tells_client (fun _ => rfl) ?_
  dsimp only
  split
  next selected target _ htarget =>
    split
    · exact blameless_rejectFill _
    · refine (valid_cableFibers cable).blameless fun answer c'' s'' hsame hvalid => ?_
      cases answer with
      | error e => exact blameless_finishFill _ _ hvalid
      | ok fibers =>
        dsimp only
        split
        · exact blameless_rejectFill _
        · have hports : target.inEditor = true →
              ∀ port ∈ target.ports, c''.editor.Has ⟨port, start.side⟩ :=
            fun _ _ hport => (has_localTarget htarget hport).of_ports hsame
          have hexpose : ∀ record ∈ laterStructures c'.settings selected.record structures,
              record.exposesPorts = true := fun record hmem => (mem_laterStructures hmem).1
          exact Valid.blameless (valid_fillCable hports hexpose _ _) fun _ _ _ _ hvalid =>
            blameless_finishFill _ _ hvalid
  · exact blameless_rejectFill _

theorem blameless_select (record : Structure) : (select record).Blameless c s := by
  refine blameless_exclusively (blameless_report rfl _) fun c' _ => ?_
  refine (valid_fetch record).blameless fun answer c'' s'' _ hvalid => ?_
  cases answer with
  | ok fetched => exact blameless_update (fun _ => rfl) (blameless_pure _)
  | error e => exact blameless_failed (hvalid e rfl) _

theorem blameless_deselect : deselect.Blameless c s :=
  blameless_exclusively (blameless_report rfl _) fun _ _ =>
    blameless_update (fun _ => rfl) (blameless_pure _)

theorem blameless_toggleMergeMode : toggleMergeMode.Blameless c s :=
  blameless_update (fun _ => rfl) (tells_client (fun _ => rfl) (blameless_pure _))

theorem blameless_togglePort (spot : PortSide) : (togglePort spot).Blameless c s :=
  blameless_update (fun _ => rfl) (tells_client (fun _ => rfl) (blameless_pure _))

end blameless

/-! ### Operations that tell of one -/

/-- Neither the editor nor the authority's record has changed. -/
structure Account.Unchanged {α : Type} (c : Client) (s : Server) (a : Account α Server) : Prop where
  editor : a.client.editor = c.editor
  registry : a.authority.registry = s.registry

namespace Job

variable {α β : Type} {c : Client} {s : Server} {failure : α → Option Failure}
  {asked : List Exchange → Prop}

/-- The job is silent, and when it ends with a failure of validation, then nothing has changed and
no more was asked than said. -/
def Rejects (asked : List Exchange → Prop) (job : Job α) (failure : α → Option Failure) (c : Client)
    (s : Server) : Prop :=
  job.Tells Server.answer (fun a => a.notices = [] ∧ ∀ e ∈ failure a.value, e.isValidation = true →
    a.Unchanged c s ∧ asked a.exchanges) c s

/-- When the user is told of a failure of validation, then nothing has changed and no more was asked
than said. -/
def Refuses (asked : List Exchange → Prop) (job : Job α) (c : Client) (s : Server) : Prop :=
  job.Tells Server.answer (fun a => Invalid a.notices → a.Unchanged c s ∧ asked a.exchanges) c s

theorem Blameless.refuses {job : Job α} (h : job.Blameless c s) : job.Refuses asked c s :=
  Tells.mono h fun _ hblameless hinvalid => absurd hinvalid hblameless

theorem Valid.rejects {job : Job α} (h : job.Valid failure c s) :
    job.Rejects asked failure c s := by
  refine Tells.mono h fun a ha => ⟨ha.1, fun e he hinvalid => ?_⟩
  rw [ha.2.2 e he] at hinvalid
  cases hinvalid

theorem Refuses.map {job : Job α} {f : α → β} (h : job.Refuses asked c s) :
    (f <$> job).Refuses asked c s :=
  Tells.map (Tells.mono h fun _ ha hinvalid =>
    ⟨⟨(ha hinvalid).1.editor, (ha hinvalid).1.registry⟩, (ha hinvalid).2⟩)

theorem refuses_client {next : Client → Job α} (hblind : ∀ log, next (c.withLog log) = next c)
    (h : (next c).Refuses asked c s) : (client >>= next).Refuses asked c s :=
  tells_client hblind h

theorem refuses_report (hnothing : asked []) (notice : Notice) (value : α) :
    (do notify notice; return value : Job α).Refuses asked c s :=
  tells_report fun _ => ⟨⟨rfl, rfl⟩, hnothing⟩

theorem Rejects.refuses {job : Job (Except Failure α)} {next : Except Failure α → Job β}
    (h : job.Rejects asked failureOf c s) (hok : ∀ value c' s', (next (.ok value)).Blameless c' s')
    (herror : ∀ e, ∃ context value', next (.error e) = do
      notify (.ofFailure context e)
      return value') : (job >>= next).Refuses asked c s := by
  refine Tells.bind h fun a ha => ?_
  obtain ⟨hsilent, hrejected⟩ := ha
  cases hvalue : a.value with
  | ok value =>
    refine (hok value a.client a.authority).mono fun b hb hinvalid => absurd ?_ hb
    simpa [Account.followedBy, hsilent] using hinvalid
  | error e =>
    obtain ⟨context, value', hnext⟩ := herror e
    rw [hnext]
    refine tells_report fun hinvalid => ?_
    have hinvalid' : Invalid [.ofFailure context e] := by
      simpa [Account.followedBy, hsilent] using hinvalid
    obtain ⟨hunchanged, hasked⟩ := hrejected e (by rw [hvalue]; rfl) (invalid_ofFailure.1 hinvalid')
    exact ⟨⟨hunchanged.editor, hunchanged.registry⟩, by simpa [Account.followedBy] using hasked⟩

end Job

section operations

variable {c : Client} {s : Server} {id : StructureId} {asked : List Exchange → Prop}

theorem rejects_assign (hnothing : asked []) (spot : PortSide) (fiber : LabelledFiber) :
    (assign id spot fiber).run.Rejects asked failureOf c s := by
  by_cases hport : c.editor.Has spot
  · exact (valid_assign hport fiber).rejects
  · refine (tells_assign_missing hport fiber).mono ?_
    rintro _ rfl
    exact ⟨rfl, fun _ _ _ => ⟨⟨rfl, rfl⟩, hnothing⟩⟩

theorem rejects_vacate (hnothing : asked []) (spot : PortSide) :
    (vacate id spot).run.Rejects asked failureOf c s := by
  by_cases hport : c.editor.Has spot
  · exact (valid_vacate hport).rejects
  · refine (tells_vacate_missing hport).mono ?_
    rintro _ rfl
    exact ⟨rfl, fun _ _ _ => ⟨⟨rfl, rfl⟩, hnothing⟩⟩

theorem refuses_dropFiber (hnothing : asked []) (spot : PortSide) (fiber : LabelledFiber) :
    (dropFiber spot fiber).Refuses asked c s := by
  refine refuses_client (fun _ => rfl) ?_
  split
  · exact (blameless_pure _).refuses
  · exact (rejects_assign hnothing spot fiber).refuses (fun _ _ _ => blameless_report rfl _)
      fun e => ⟨_, _, rfl⟩

theorem refuses_clearPort (hnothing : asked []) (spot : PortSide) :
    (clearPort spot).Refuses asked c s := by
  refine refuses_client (fun _ => rfl) ?_
  split
  · exact (blameless_pure _).refuses
  · exact (rejects_vacate hnothing spot).refuses (fun _ _ _ => blameless_report rfl _)
      fun e => ⟨_, _, rfl⟩

theorem tells_relisted (write : Call) :
    (Attempt.call write >>= fun _ => Attempt.call (.rowsOf id)).run.Tells Server.answer
      (fun a => a.client = c ∧ a.notices = [] ∧ ∀ e, a.value = .error e → e.isValidation = true →
        a.authority.registry = s.registry ∧ a.exchanges = [⟨write, .error e⟩]) c s := by
  have hwrite : (Attempt.call write).run.Tells Server.answer
      (Eq { value := (s.answer write).1, client := c, authority := (s.answer write).2,
            exchanges := [⟨write, (s.answer write).1⟩] }) c s := tells_call rfl
  refine hwrite.attempt ?_ ?_
  · rintro _ answer rfl hok
    refine tells_call ⟨rfl, rfl, fun e he hinvalid => ?_⟩
    have hlisting : (Call.rowsOf id).isGrouped = false := rfl
    rw [Server.neverInvalid_answer _ hlisting e he] at hinvalid
    cases hinvalid
  · rintro _ e rfl herror
    refine ⟨rfl, rfl, fun e' he _ => ?_⟩
    obtain rfl := Except.error.inj he
    dsimp only at herror ⊢
    exact ⟨Server.registry_of_error herror, by rw [herror]⟩

theorem failureOf_eq_some {α : Type} {answer : Except Failure α} {e : Failure} :
    failureOf answer = some e ↔ answer = .error e := by
  cases answer <;> simp [failureOf]

theorem rejects_relisted {write : Call}
    (hwrite : ∀ e, e.isValidation = true → asked [⟨write, .error e⟩]) :
    (Attempt.call write >>= fun _ => Attempt.call (.rowsOf id)).run.Rejects
      asked failureOf c s := by
  refine (tells_relisted write).mono fun a ha => ⟨ha.2.1, fun e he hinvalid => ?_⟩
  obtain ⟨hclient, -, hfailed⟩ := ha
  obtain ⟨hregistry, hexchanges⟩ := hfailed e (failureOf_eq_some.1 he) hinvalid
  exact ⟨⟨congrArg _ hclient, hregistry⟩, hexchanges ▸ hwrite e hinvalid⟩

theorem refuses_mergeSelected (hnothing : asked []) (hmerge : ∀ id ports side e,
    e.isValidation = true → asked [⟨.merge id ports side, .error e⟩]) :
    mergeSelected.Refuses asked c s := by
  refine refuses_client (fun _ => rfl) ?_
  dsimp only
  split
  · exact refuses_report hnothing _ _
  next id side ports _ =>
    exact (rejects_relisted (hmerge id ports side)).refuses
      (fun _ _ _ => blameless_update (fun _ => rfl) (blameless_update (fun _ => rfl)
        (blameless_report rfl _))) fun e => ⟨_, _, rfl⟩

theorem refuses_unmerge (group : MergeGroupId) (ports : Option (List PortNumber))
    (hunmerge : ∀ ports e, e.isValidation = true → asked [⟨.unmerge group ports, .error e⟩]) :
    (unmerge group ports).Refuses asked c s := by
  refine refuses_client (fun _ => rfl) ?_
  dsimp only
  split
  · exact (blameless_pure _).refuses
  · split
    · exact (blameless_pure _).refuses
    · exact (rejects_relisted (hunmerge _)).refuses
        (fun _ _ _ => blameless_update (fun _ => rfl) (blameless_report rfl _)) fun e => ⟨_, _, rfl⟩

theorem rejects_uploadToGroup (hrows : InOrder c.editor.rows) {group : MergeGroupId}
    {spot : PortSide} {fibers : List Fiber} (hnothing : fibers = [] → asked [])
    (hupload : ∀ e, e.isValidation = true →
      asked [⟨.upload group spot.side (fibers.map Fiber.ref), .error e⟩]) (cableName : String) :
    (uploadToGroup id group spot fibers cableName).run.Rejects asked failureOf c s := by
  rw [uploadToGroup]
  split
  next hnone =>
    have hempty : fibers = [] := List.head?_eq_none_iff.1 hnone
    exact tells_pure ⟨rfl, fun _ _ _ => ⟨⟨rfl, rfl⟩, hnothing hempty⟩⟩
  next first _ =>
    have hlisted : (Settlement.listing <$> (Attempt.call
        (.upload group spot.side (fibers.map Fiber.ref)) >>= fun _ =>
          Attempt.call (.rowsOf id))).run.Tells Server.answer
        (fun a => a.client = c.apply (.place id spot (.ofFiber first cableName)) ∧ a.notices = [] ∧
          ∀ e, a.value = .error e → e.isValidation = true → a.authority.registry = s.registry ∧
            a.exchanges = [⟨.upload group spot.side (fibers.map Fiber.ref), .error e⟩])
        (c.apply (.place id spot (.ofFiber first cableName))) s := by
      rw [map_eq_pure_bind]
      refine (tells_relisted _).attempt (fun a rows ha _ => tells_pure ?_) fun a e ha herror => ?_
      · refine ⟨ha.1, by simp [Account.followedBy, ha.2.1], ?_⟩
        rintro _ ⟨⟩
      · refine ⟨ha.1, ha.2.1, fun e' he hinvalid => ?_⟩
        obtain rfl := Except.error.inj he
        exact ha.2.2 e herror hinvalid
    rw [map_bind] at hlisted
    refine tells_optimistically hlisted (fun a settlement ha _ => ⟨ha.2.1, ?_⟩) fun a e ha herror =>
      ⟨ha.2.1, fun e' he hinvalid => ?_⟩
    · rintro _ ⟨⟩
    obtain rfl := Option.some.inj he
    obtain ⟨hregistry, hexchanges⟩ := ha.2.2 e herror hinvalid
    have hsorted : sortRows c.editor.rows = c.editor.rows := hrows.sortRows_eq
    exact ⟨⟨editor_putBack rfl hsorted (congrArg _ ha.1), hregistry⟩,
      hexchanges ▸ hupload e hinvalid⟩

theorem refuses_fillGroup (hrows : InOrder c.editor.rows) {group : MergeGroupId}
    {ports : List PortNumber} (hports : ports ≠ []) {spot : PortSide} {fibers : List Fiber}
    (hnothing : fibers = [] → asked []) (hupload : ∀ fibers e, e.isValidation = true →
      asked [⟨.upload group spot.side fibers, .error e⟩]) (cableName : String) :
    (fillGroup id group ports spot fibers cableName).Refuses asked c s := by
  have htaken : fibers.take ports.length = [] → asked [] := fun htake => by
    rcases List.take_eq_nil_iff.1 htake with hlength | hfibers
    · exact absurd (List.length_eq_zero_iff.1 hlength) hports
    · exact hnothing hfibers
  exact (rejects_uploadToGroup hrows htaken (hupload _) cableName).refuses
    (fun _ _ _ => blameless_report rfl _) fun e => ⟨_, _, rfl⟩

/-- What has been asked for the fibers of a cable: nothing when it carries them, else the authority
for its list. -/
def Cable.Fetched (cable : Cable) (fibers : List Fiber) (exchanges : List Exchange) : Prop :=
  exchanges = [] ∨ cable.fibers = [] ∧ ∃ fetched,
    exchanges = [⟨.fibersOf cable.id, .ok fetched⟩] ∧ fibers = Fiber.sortByBundle fetched

theorem tells_cableFibers (cable : Cable) :
    (cableFibers cable).run.Tells Server.answer (fun a => a.client = c ∧ a.notices = [] ∧
      a.authority.registry = s.registry ∧ (∀ e, a.value = .error e → e.isValidation = false) ∧
      ∀ fibers, a.value = .ok fibers → cable.Fetched fibers a.exchanges) c s := by
  rw [cableFibers]
  split
  next hempty =>
    have hread : (Call.fibersOf cable.id).isWrite = false := rfl
    have hvalid := Server.neverInvalid_answer s
      (show (Call.fibersOf cable.id).isGrouped = false from rfl)
    have hregistry := Server.registry_of_read s hread
    have hfetch : (Attempt.call (.fibersOf cable.id)).run.Tells Server.answer
        (Eq { value := (s.answer (.fibersOf cable.id)).1, client := c,
              authority := (s.answer (.fibersOf cable.id)).2,
              exchanges := [⟨.fibersOf cable.id, (s.answer (.fibersOf cable.id)).1⟩] }) c s :=
      tells_call rfl
    refine hfetch.attempt ?_ ?_
    · rintro _ fetched rfl hok
      refine tells_pure ⟨rfl, rfl, hregistry, ?_, ?_⟩
      · rintro _ ⟨⟩
      · rintro fibers ⟨⟩
        refine .inr ⟨List.isEmpty_iff.1 hempty, fetched, ?_, rfl⟩
        dsimp only [Account.followedBy] at hok ⊢
        rw [hok]
        rfl
    · rintro _ e rfl herror
      refine ⟨rfl, rfl, hregistry, ?_, ?_⟩
      · rintro e' ⟨⟩
        exact hvalid e herror
      · rintro _ ⟨⟩
  next =>
    have hcarried : (pure cable.fibers : Attempt (List Fiber)).run.Tells Server.answer
        (Eq { value := .ok cable.fibers, client := c, authority := s }) c s := tells_pure rfl
    refine hcarried.attempt ?_ ?_
    · rintro _ fibers rfl _
      refine tells_pure ⟨rfl, rfl, rfl, ?_, fun _ _ => .inl rfl⟩
      rintro _ ⟨⟩
    · rintro _ e rfl ⟨⟩

end operations

/-! ### Whole operations -/

/-- The two halves of a move, as one attempt. -/
def Client.relocate (id : StructureId) (source target : PortSide) (fiber : LabelledFiber) :
    Attempt Unit := do
  assign id target fiber
  vacate id source

namespace Operation

/-- A move that finds its target finds the port that it is to clear, too. -/
def HasSource (editor : Editor) : Operation → Prop
  | moveFiber source target _ => editor.Has target → editor.Has source
  | _ => True

/-- The operation ends because of a failure of validation: the user is told of one, or one of the
halves of a move has ended so. -/
def EndsInvalid (c : Client) (s : Server) (notices : List Notice) : Operation → Prop
  | moveFiber source target fiber => source ≠ target ∧ ∃ id, c.editor.structureId = some id ∧
      (relocate id source target fiber).run.Tells Server.answer
        (fun a => ∃ e, a.value = .error e ∧ e.isValidation = true) c s
  | _ => Invalid notices

/-- What has been asked when an operation fails by validation only then: the authority has refused
what was said of a merge group, or it knows of no fibers in the cable that was dropped on one. -/
inductive RefusedAfter : Operation → List Exchange → Prop
  | merge (id : StructureId) (ports : List PortNumber) (side : Side) (e : Failure)
    (invalid : e.isValidation = true) :
    RefusedAfter .mergeSelected [⟨.merge id ports side, .error e⟩]
  | unmerge (group : MergeGroupId) (named : Option (List PortNumber)) (ports : List PortNumber)
    (e : Failure) (invalid : e.isValidation = true) :
    RefusedAfter (.unmerge group named) [⟨.unmerge group ports, .error e⟩]
  | upload (group : MergeGroupId) (side : Side) (drop : Drop) (fibers : List FiberRef) (e : Failure)
    (invalid : e.isValidation = true) :
    RefusedAfter (.dropOnGroup group side drop) [⟨.upload group side fibers, .error e⟩]
  | uploadFetched (group : MergeGroupId) (side : Side) (cable : Cable) (bare : cable.fibers = [])
    (fetched : List Fiber) (fibers : List FiberRef) (e : Failure)
    (invalid : e.isValidation = true) :
    RefusedAfter (.dropOnGroup group side (.cable cable))
      [⟨.fibersOf cable.id, .ok fetched⟩, ⟨.upload group side fibers, .error e⟩]
  | noFibers (group : MergeGroupId) (side : Side) (cable : Cable) (bare : cable.fibers = []) :
    RefusedAfter (.dropOnGroup group side (.cable cable)) [⟨.fibersOf cable.id, .ok []⟩]

section fetched

variable {cable : Cable} {fibers : List Fiber} {exchanges : List Exchange}

theorem RefusedAfter.of_fetched (h : cable.Fetched fibers exchanges) (group : MergeGroupId)
    (side : Side) (refs : List FiberRef) {e : Failure} (hinvalid : e.isValidation = true) :
    (dropOnGroup group side (.cable cable)).RefusedAfter
      (exchanges ++ [⟨.upload group side refs, .error e⟩]) := by
  obtain rfl | ⟨hbare, fetched, rfl, -⟩ := h
  · exact .upload group side _ refs e hinvalid
  · exact .uploadFetched group side cable hbare fetched refs e hinvalid

theorem RefusedAfter.of_none_fetched (h : cable.Fetched [] exchanges) (group : MergeGroupId)
    (side : Side) :
    exchanges = [] ∨ (dropOnGroup group side (.cable cable)).RefusedAfter exchanges := by
  obtain hnothing | ⟨hbare, fetched, rfl, hsorted⟩ := h
  · exact .inl hnothing
  · have hlength := congrArg List.length hsorted
    rw [Fiber.sortByBundle, length_sortBy] at hlength
    obtain rfl : fetched = [] := List.length_eq_zero_iff.1 hlength.symm
    exact .inr (.noFibers group side cable hbare)

end fetched

end Operation

section whole

variable {c : Client} {s : Server}

theorem refuses_dropOnGroup (hrows : InOrder c.editor.rows) (group : MergeGroupId) (side : Side)
    (drop : Drop) : (dropOnGroup group side drop).Refuses
      (fun exchanges => exchanges = [] ∨
        (Operation.dropOnGroup group side drop).RefusedAfter exchanges)
      c s := by
  refine refuses_client (fun _ => rfl) ?_
  dsimp only
  split
  · exact (blameless_pure _).refuses
  next id _ =>
    split
    · exact refuses_report (.inl rfl) _ _
    next first hfirst =>
      have hports : Occupancy.groupPorts c.editor.rows group side ≠ [] := fun hnil => by
        rw [hnil] at hfirst
        cases hfirst
      cases drop with
      | fiber fiber => exact refuses_dropFiber (.inl rfl) _ fiber
      | bundle bundle =>
        exact refuses_fillGroup hrows hports (fun _ => .inl rfl)
          (fun fibers e hinvalid => .inr (.upload _ _ _ fibers e hinvalid)) _
      | mounted _ | component _ => exact refuses_report (.inl rfl) _ _
      | cable cable =>
        refine (tells_cableFibers cable).bind fun a ha => ?_
        obtain ⟨hclient, hsilent, hregistry, hvalid, hfetched⟩ := ha
        cases hvalue : a.value with
        | error e =>
          have htold : (do
              Job.notify (.ofFailure "Could not load cable fibers" e)
              return false : Job Bool).Blameless a.client a.authority :=
            blameless_failed (hvalid e hvalue) _
          refine htold.mono fun b hb hinvalid => absurd ?_ hb
          simpa [Account.followedBy, hsilent] using hinvalid
        | ok fibers =>
          have hrows' : InOrder a.client.editor.rows := hclient ▸ hrows
          have hfill :
              (fillGroup id group (Occupancy.groupPorts c.editor.rows group side) ⟨first, side⟩
              fibers cable.name).Refuses (fun exchanges => a.exchanges ++ exchanges = [] ∨
                (Operation.dropOnGroup group side (.cable cable)).RefusedAfter
                  (a.exchanges ++ exchanges))
              a.client a.authority := by
            refine refuses_fillGroup hrows' hports ?_
              (fun refs e hinvalid =>
                .inr (.of_fetched (hfetched fibers hvalue) _ _ refs hinvalid)) _
            rintro rfl
            rw [List.append_nil]
            exact Operation.RefusedAfter.of_none_fetched (hfetched [] hvalue) group side
          refine hfill.mono fun b hb hinvalid => ?_
          have hinvalid' : Invalid b.notices := by
            simpa [Account.followedBy, hsilent] using hinvalid
          obtain ⟨hunchanged, hasked⟩ := hb hinvalid'
          exact ⟨⟨hunchanged.editor.trans (congrArg _ hclient),
            hunchanged.registry.trans hregistry⟩, hasked⟩

theorem refuses_dropOnPort {asked : List Exchange → Prop} (hnothing : asked []) (spot : PortSide)
    (drop : Drop) (structures : List Structure) :
    (dropOnPort spot drop structures).Refuses asked c s := by
  refine refuses_client (fun _ => rfl) ?_
  split
  · exact (blameless_pure _).refuses
  · cases drop with
    | fiber fiber => exact (refuses_dropFiber hnothing spot fiber).map
    | bundle bundle => exact (blameless_dropBundle spot bundle).map.refuses
    | cable cable => exact (blameless_dropCable spot cable structures).map.refuses
    | mounted _ | component _ => exact refuses_report hnothing _ _

theorem valid_relocate {id : StructureId} {source target : PortSide} (hsource : c.editor.Has source)
    (htarget : c.editor.Has target) (fiber : LabelledFiber) :
    (relocate id source target fiber).run.Valid failureOf c s :=
  (valid_assign htarget fiber).attempt fun _ _ _ hports => valid_vacate (hsource.of_ports hports)

theorem tells_moveFiber_missing {source target : PortSide} (htarget : ¬c.editor.Has target)
    (fiber : LabelledFiber) : (Outcome.flag <$> moveFiber source target fiber).Tells Server.answer
      (fun a => a.Unchanged c s ∧ a.exchanges = []) c s := by
  refine Tells.map ?_
  rw [moveFiber]
  split
  · exact tells_pure ⟨⟨rfl, rfl⟩, rfl⟩
  · refine tells_client (fun _ => rfl) ?_
    split
    · exact tells_pure ⟨⟨rfl, rfl⟩, rfl⟩
    · refine Tells.bind (tells_assign_missing htarget fiber) ?_
      rintro _ rfl
      exact tells_report ⟨⟨rfl, rfl⟩, rfl⟩

theorem unheard_moveFiber {source target : PortSide}
    (hsource : c.editor.Has target → c.editor.Has source) (fiber : LabelledFiber) :
    (Outcome.flag <$> moveFiber source target fiber).Tells Server.answer
      (fun a => (Operation.moveFiber source target fiber).EndsInvalid c s a.notices →
        a.Unchanged c s ∧ a.exchanges = []) c s := by
  by_cases htarget : c.editor.Has target
  · refine (surfaced_moveFiber source target fiber c s).mono fun a _ hends => ?_
    obtain ⟨-, id, -, hfails⟩ := hends
    have hvalid : (relocate id source target fiber).run.Valid failureOf c s :=
      valid_relocate (hsource htarget) htarget fiber
    obtain ⟨b, ⟨⟨-, -, hnever⟩, e, herror, hinvalid⟩, -⟩ := Tells.and
      (p := fun value _ => ∃ e, value = .error e ∧ e.isValidation = true) hvalid hfails
    rw [hnever e (failureOf_eq_some.2 herror)] at hinvalid
    cases hinvalid
  · exact (tells_moveFiber_missing htarget fiber).mono fun a ha _ => ha

theorem Job.Refuses.unheard {α : Type} {operation : Operation} {job : Job α} {f : α → Outcome}
    (h : job.Refuses (fun exchanges => exchanges = [] ∨ operation.RefusedAfter exchanges) c s)
    (hends : ∀ notices, operation.EndsInvalid c s notices → Invalid notices) :
    (f <$> job).Tells Server.answer (fun a => operation.EndsInvalid c s a.notices →
      a.Unchanged c s ∧ (a.exchanges = [] ∨ operation.RefusedAfter a.exchanges)) c s :=
  Tells.mono h.map fun _ ha hinvalid => ha (hends _ hinvalid)

/-- Whatever led to the editor, and whatever state the authority is in: an operation that ends
because of a failure of validation has changed nothing, and it has asked nothing of the authority,
or what the authority refused. A move that finds its target and not the port to be cleared is left
out. -/
theorem unheard_when_invalid {σ : Type} (authority : Authority σ) (settings : ClientSettings)
    (ids : IdSource) (other : σ) (schedule : List Event) (s : Server) :
    let c := (Scene.run authority { client := .ofSettings settings ids, authority := other }
      schedule).client
    (∀ operation : Operation, operation.HasSource c.editor →
      operation.job.Tells Server.answer (fun a => operation.EndsInvalid c s a.notices →
        a.Unchanged c s ∧ (a.exchanges = [] ∨ operation.RefusedAfter a.exchanges)) c s) ∧
    ∀ spot j structures explain, (dropJsonOnPort spot j structures explain).Tells Server.answer
      (fun a => Invalid a.notices ∨ (∃ e, Drop.ofJson j explain = .error e) →
        a.Unchanged c s ∧ a.exchanges = []) c s := by
  intro c
  have hrows : InOrder c.editor.rows :=
    (Scene.editor_reached authority settings ids other schedule).inOrder
  refine ⟨fun operation hsource => ?_, fun spot j structures explain => ?_⟩
  · cases operation with
    | select record => exact (blameless_select record).refuses.unheard fun _ => id
    | deselect => exact blameless_deselect.refuses.unheard fun _ => id
    | dropFiber spot fiber => exact (refuses_dropFiber (.inl rfl) spot fiber).unheard fun _ => id
    | clearPort spot => exact (refuses_clearPort (.inl rfl) spot).unheard fun _ => id
    | moveFiber source target fiber =>
      exact (unheard_moveFiber hsource fiber).mono fun a ha hends =>
        ⟨(ha hends).1, .inl (ha hends).2⟩
    | dropBundle start bundle =>
      exact (blameless_dropBundle start bundle).refuses.unheard fun _ => id
    | dropCable start cable structures =>
      exact (blameless_dropCable start cable structures).refuses.unheard fun _ => id
    | dropOnPort spot drop structures =>
      exact (refuses_dropOnPort (.inl rfl) spot drop structures).unheard fun _ => id
    | toggleMergeMode => exact blameless_toggleMergeMode.refuses.unheard fun _ => id
    | togglePort spot => exact (blameless_togglePort spot).refuses.unheard fun _ => id
    | mergeSelected =>
      exact (refuses_mergeSelected (.inl rfl) fun id ports side e hinvalid =>
        .inr (.merge id ports side e hinvalid)).unheard fun _ => id
    | unmerge group ports =>
      exact (refuses_unmerge group ports fun named e hinvalid =>
        .inr (.unmerge group ports named e hinvalid)).unheard fun _ => id
    | dropOnGroup group side drop =>
      exact (refuses_dropOnGroup hrows group side drop).unheard fun _ => id
  · rw [dropJsonOnPort]
    cases Drop.ofJson j explain with
    | ok drop =>
      have hdrop : (dropOnPort spot drop structures).Refuses (· = []) c s :=
        refuses_dropOnPort (by rfl) spot drop structures
      refine Tells.mono hdrop fun a ha hinvalid => ha (hinvalid.resolve_right ?_)
      rintro ⟨e, ⟨⟩⟩
    | error e =>
      exact tells_report fun _ => ⟨⟨rfl, rfl⟩, rfl⟩

end whole

theorem unheard_on_missing_target :
    let s := Server.ofPlan {} Server.smallPlan (.numbered 0 0)
    let c := (Scene.run Server.answer { client := .ofSettings {} (.numbered 1 0), authority := s }
      [.start (.select Server.smallTray), .serve 0, .deliver 0, .serve 0, .deliver 0]).client
    let fiber : LabelledFiber := ⟨Server.smallFiber 1, "cable"⟩
    let operation := Operation.moveFiber ⟨8, .a⟩ ⟨9, .a⟩ fiber
    operation.HasSource c.editor ∧
      ((relocate Server.smallTray.id ⟨8, .a⟩ ⟨9, .a⟩ fiber).run.run Server.answer c s).1 =
        .error (.missingLocalPort ⟨9, .a⟩) ∧
      operation.job.Tells Server.answer (fun a => operation.EndsInvalid c s a.notices →
        a.Unchanged c s ∧ (a.exchanges = [] ∨ operation.RefusedAfter a.exchanges)) c s := by
  intro s c fiber operation
  have hmissing : (9 : PortNumber) ∉ Occupancy.sidePorts c.editor.ports .a := by decide +kernel
  have hsource : operation.HasSource c.editor := fun htarget => absurd htarget hmissing
  exact ⟨hsource, by decide +kernel,
    (unheard_when_invalid Server.answer {} (.numbered 1 0) s _ s).1 operation hsource⟩

/-- The authority refuses to dissolve a group that is named with other ports than its own. And a
fiber that is moved from a port that does not exist has been put on its target by the time this is
found. -/
theorem asked_when_invalid :
    let line :=
      [.select Server.smallTray, .toggleMergeMode, .togglePort ⟨1, .a⟩, .togglePort ⟨2, .a⟩,
        .mergeSelected].foldl (Operation.after Server.answer)
      (Client.ofSettings {} (.numbered 1 0), Server.ofPlan {} Server.smallPlan (.numbered 0 0))
    let unmerging := (Operation.unmerge ⟨⟨3⟩⟩ (some [2, 3])).job.run
      (Authority.recorded Server.answer) line.1 (line.2, [])
    let fiber : LabelledFiber := ⟨Server.smallFiber 1, "cable"⟩
    let moving := (Operation.moveFiber ⟨9, .a⟩ ⟨1, .a⟩ fiber).job.run
      (Authority.recorded Server.answer) line.1 (line.2, [])
    (¬Invalid line.1.notices.items ∧ Invalid unmerging.2.1.notices.items ∧
      unmerging.2.2.2.map (·.call) = [.unmerge ⟨⟨3⟩⟩ [2, 3]]) ∧
    (((relocate Server.smallTray.id ⟨9, .a⟩ ⟨1, .a⟩ fiber).run.run Server.answer line.1 line.2).1 =
        .error (.missingLocalPort ⟨9, .a⟩) ∧
      moving.2.2.2.length = 2 ∧ moving.2.1.editor.rows ≠ line.1.editor.rows) := by
  decide +kernel

end CrossConnect
