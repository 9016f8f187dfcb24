import CrossConnect.Client.Operation
import CrossConnect.Proofs.Client.Account
import CrossConnect.Proofs.Server
import CrossConnect.Wire.Drop

/-!
What an operation tells the user, compared with the calls it made. A failed call ends its operation,
so there is one at most, and the operation says so in the one notice that it pushes.
-/
namespace CrossConnect

open Client

/-! ### Jobs that end with the failure of a call -/

def failureOf {α : Type} : Except Failure α → Option Failure
  | .ok _ => none
  | .error e => some e

namespace Job

variable {σ α β : Type} {authority : Authority σ} {blamed : Option Failure}

/-- After a failure, if any, the job says nothing and ends with the failure of every call that
failed. -/
def Blames (authority : Authority σ) (blamed : Option Failure) (job : Job α)
    (failure : α → Option Failure) : Prop :=
  ∀ c s, job.Tells authority (fun a => a.notices = [] ∧ (∀ e ∈ blamed, failure a.value = some e) ∧
    ∀ x ∈ a.exchanges, ∀ e ∈ x.failure?, failure a.value = some e) c s

variable {failure : α → Option Failure} {failure' : β → Option Failure}

theorem blames_pure {value : α} (h : ∀ e ∈ blamed, failure value = some e) :
    (pure value : Job α).Blames authority blamed failure :=
  fun _ _ => tells_pure ⟨rfl, h, by simp⟩

theorem blames_client {next : Client → Job α} (hblind : ∀ c log, next (c.withLog log) = next c)
    (h : ∀ c, (next c).Blames authority blamed failure) :
    (client >>= next).Blames authority blamed failure :=
  fun c s => tells_client (hblind c) (h c c s)

theorem blames_update {f : Client → Client}
    (hblind : ∀ c log, f (c.withLog log) = (f c).withLog log) :
    (update f).Blames authority blamed fun _ => blamed :=
  fun c _ => tells_update (hblind c) ⟨rfl, fun _ he => he, by simp⟩

theorem blames_apply (edit : Edit) : (apply edit).Blames authority blamed fun _ => blamed :=
  blames_update fun _ _ => rfl

theorem blames_call (call : Call) : (Attempt.call call).run.Blames authority none failureOf := by
  refine fun c s => tells_call ⟨rfl, by simp, ?_⟩
  simp only [List.mem_singleton, forall_eq]
  cases (authority s call).1 <;> simp [Exchange.failure?, failureOf]

theorem Blames.bind {job : Job α} {next : α → Job β} (h : job.Blames authority blamed failure)
    (hnext : ∀ value, (next value).Blames authority (failure value) failure') :
    (job >>= next).Blames authority blamed failure' := by
  intro c s
  refine (h c s).bind fun a ha => (hnext a.value a.client a.authority).mono fun b hb => ?_
  obtain ⟨hsilent, hblamed, hfailed⟩ := ha
  obtain ⟨hsilent', hblamed', hfailed'⟩ := hb
  refine ⟨by simp [Account.followedBy, hsilent, hsilent'], fun e he => hblamed' e (hblamed e he),
    fun x hx => ?_⟩
  rcases List.mem_append.1 hx with hx | hx
  · exact fun e he => hblamed' e (hfailed x hx e he)
  · exact hfailed' x hx

theorem Blames.attempt {attempt : Attempt α} {next : α → Attempt β}
    (h : attempt.run.Blames authority blamed failureOf)
    (hnext : ∀ value, (next value).run.Blames authority none failureOf) :
    (attempt >>= next).run.Blames authority blamed failureOf := by
  refine Blames.bind h fun answer => ?_
  cases answer with
  | ok value => exact hnext value
  | error e => exact blames_pure fun _ he => he

theorem Blames.map {attempt : Attempt α} {f : α → β}
    (h : attempt.run.Blames authority blamed failureOf) :
    (f <$> attempt).run.Blames authority blamed failureOf := by
  rw [map_eq_pure_bind]
  exact h.attempt fun _ => blames_pure nofun

end Job

open Job

section attempts

variable {σ : Type} {authority : Authority σ} {id : StructureId}

theorem blames_settleMerged (merged : Bool) (otherwise : Settlement) :
    (settleMerged id merged otherwise).run.Blames authority none failureOf := by
  cases merged with
  | true => exact (blames_call _).map
  | false => exact blames_pure nofun

theorem blames_optimistically (edit : Edit) {remote : Attempt Settlement}
    (h : remote.run.Blames authority none failureOf) :
    (optimistically id edit remote).run.Blames authority none failureOf := by
  refine blames_client (fun _ _ => rfl) fun c => (blames_apply edit).bind fun _ =>
    h.bind fun answer => ?_
  cases answer with
  | ok settlement => exact (blames_apply _).bind fun _ => blames_pure nofun
  | error e => exact (blames_apply _).bind fun _ => blames_pure fun _ he => he

theorem blames_checkMerged (spot : PortSide) :
    (checkMerged spot).run.Blames authority none failureOf :=
  blames_client (fun _ _ => rfl) fun _ => blames_pure nofun

theorem blames_assign (spot : PortSide) (fiber : LabelledFiber) :
    (assign id spot fiber).run.Blames authority none failureOf :=
  (blames_checkMerged spot).attempt fun _ => blames_optimistically _ <|
    (blames_call _).attempt fun _ => blames_settleMerged _ _

theorem blames_vacate (spot : PortSide) :
    (vacate id spot).run.Blames authority none failureOf :=
  (blames_checkMerged spot).attempt fun _ => blames_optimistically _ <|
    (blames_call _).attempt fun _ => blames_settleMerged _ _

theorem blames_placeOne (target : FillTarget) (spot : PortSide) (fiber : LabelledFiber) :
    (placeOne target spot fiber).run.Blames authority none failureOf := by
  rw [placeOne]
  split
  · exact blames_assign spot fiber
  · exact (blames_call _).attempt fun _ => blames_pure nofun

theorem blames_fillPorts (target : FillTarget) (side : Side) (ports : List PortNumber)
    (fibers : List LabelledFiber) (filled : List MergeGroupId) (pass : FillPass) :
    (fillPorts target side ports fibers filled pass).Blames authority none (·.failure) := by
  induction ports generalizing fibers filled pass with
  | nil => exact blames_pure nofun
  | cons port ports ih =>
    cases fibers with
    | nil => exact blames_pure nofun
    | cons fiber fibers =>
      simp only [fillPorts]
      split
      · exact ih _ _ _
      · refine (blames_placeOne target _ fiber).bind fun answer => ?_
        cases answer with
        | ok _ => exact ih _ _ _
        | error e => exact blames_pure fun _ he => he

theorem blames_remoteTarget (record : Structure) (side : Side) :
    (remoteTarget record side).run.Blames authority none failureOf := by
  rw [remoteTarget]
  split
  · exact blames_pure nofun
  · exact (blames_call _).attempt fun _ => (blames_call _).attempt fun _ => blames_pure nofun

theorem blames_fillLater (side : Side) (later : List Structure) (fibers : List LabelledFiber)
    (report : FillReport) :
    (fillLater side later fibers report).Blames authority none (·.1) := by
  induction later generalizing fibers report with
  | nil => exact blames_pure nofun
  | cons record later ih =>
    simp only [fillLater]
    split
    · exact blames_pure nofun
    · refine (blames_remoteTarget record side).bind fun answer => ?_
      cases answer with
      | error e => exact blames_pure fun _ he => he
      | ok target =>
        dsimp only
        split
        · exact blames_pure nofun
        · refine (blames_fillPorts target side _ fibers [] { report }).bind fun pass => ?_
          cases hfailure : pass.failure with
          | some e => exact blames_pure fun _ he => he
          | none => exact ih _ _

theorem blames_fillCable (first : FillTarget) (later : List Structure) (side : Side)
    (fibers : List LabelledFiber) (report : FillReport) :
    (fillCable first later side fibers report).Blames authority none (·.1) := by
  refine (blames_fillPorts first side _ fibers [] { report }).bind fun pass => ?_
  cases hfailure : pass.failure with
  | some e => exact blames_pure fun _ he => he
  | none => exact blames_fillLater side later _ _

theorem blames_cableFibers (cable : Cable) :
    (cableFibers cable).run.Blames authority none failureOf := by
  rw [cableFibers]
  split
  · exact (blames_call _).attempt fun _ => blames_pure nofun
  · exact blames_pure nofun

theorem blames_fetch (record : Structure) : (fetch record).run.Blames authority none failureOf := by
  rw [fetch]
  split
  · exact blames_pure nofun
  · exact (blames_call _).attempt fun _ => (blames_call _).attempt fun _ => blames_pure nofun

theorem blames_uploadToGroup (group : MergeGroupId) (spot : PortSide) (fibers : List Fiber)
    (cableName : String) :
    (uploadToGroup id group spot fibers cableName).run.Blames authority none failureOf := by
  rw [uploadToGroup]
  split
  · exact blames_pure nofun
  · exact blames_optimistically _ ((blames_call _).attempt fun _ => (blames_call _).map)

end attempts

/-! ### Operations -/

def FillOutcome.isFull : FillOutcome → Bool
  | connected _ => true
  | _ => false

def DropOutcome.isFull : DropOutcome → Bool
  | fiber connected => connected
  | fill outcome => outcome.isFull
  | rejected _ => false

def Outcome.isFull : Outcome → Bool
  | flag value => value
  | fill outcome => outcome.isFull
  | drop outcome => outcome.isFull

/-- A warning or an error that closes with the message of the failure. -/
structure Notice.Mentions (notice : Notice) (e : Failure) : Prop where
  level : notice.level = .warning ∨ notice.level = .error
  message : ∃ context, notice.message = context ++ e.message

theorem Notice.mentions_ofFailure (context : String) (e : Failure) :
    (ofFailure context e).Mentions e := by
  refine ⟨?_, context ++ ": ", ?_⟩
  · simp only [ofFailure]
    split
    · exact .inl rfl
    · exact .inr rfl
  · simp [ofFailure, toString]

namespace Job

variable {σ α β : Type} {authority : Authority σ} {blamed : Option Failure}

/-- The job pushes one notice at most, and one about the failure before it or of a call of its own,
if there was any. -/
def Surfaces (authority : Authority σ) (blamed : Option Failure) (job : Job α) (full : α → Bool) :
    Prop :=
  ∀ c s, job.Tells authority (fun a => a.notices.length ≤ 1 ∧
    ∀ e, (blamed = some e ∨ ∃ x ∈ a.exchanges, x.failure? = some e) → full a.value = false ∧
      ∃ notice, a.notices = [notice] ∧ notice.Mentions e ∧ notice.code = some e.kind.code) c s

variable {full : α → Bool}

theorem surfaces_pure (value : α) : (pure value : Job α).Surfaces authority none full :=
  fun _ _ => tells_pure (by simp)

theorem surfaces_report (notice : Notice) (value : α) :
    (do notify notice; return value : Job α).Surfaces authority none full :=
  fun _ _ => tells_report (by simp)

theorem surfaces_failed (context : String) (e : Failure) {value : α} (hvalue : full value = false) :
    (do notify (.ofFailure context e); return value : Job α).Surfaces authority (some e) full := by
  refine fun c s => tells_report ⟨le_rfl, ?_⟩
  rintro e' (he | ⟨x, hx, -⟩)
  · obtain rfl := Option.some.inj he
    exact ⟨hvalue, _, rfl, Notice.mentions_ofFailure context e, rfl⟩
  · cases hx

theorem surfaces_client {next : Client → Job α} (hblind : ∀ c log, next (c.withLog log) = next c)
    (h : ∀ c, (next c).Surfaces authority blamed full) :
    (client >>= next).Surfaces authority blamed full :=
  fun c s => tells_client (hblind c) (h c c s)

theorem Blames.surfaces {job : Job β} {next : β → Job α} {failure : β → Option Failure}
    (h : job.Blames authority none failure)
    (hnext : ∀ value, (next value).Surfaces authority (failure value) full) :
    (job >>= next).Surfaces authority none full := by
  intro c s
  refine (h c s).bind fun a ha => (hnext a.value a.client a.authority).mono fun b hb => ?_
  obtain ⟨hsilent, -, hfailed⟩ := ha
  refine ⟨by simpa [Account.followedBy, hsilent] using hb.1, fun e he => ?_⟩
  have hsame : (a.followedBy b).notices = b.notices := by simp [Account.followedBy, hsilent]
  rw [hsame]
  refine hb.2 e ?_
  rcases he with he | ⟨x, hx, he⟩
  · cases he
  · rcases List.mem_append.1 hx with hx | hx
    · exact .inl (hfailed x hx e he)
    · exact .inr ⟨x, hx, he⟩

theorem Surfaces.update {job : Job α} (h : job.Surfaces authority blamed full) {f : Client → Client}
    (hblind : ∀ c log, f (c.withLog log) = (f c).withLog log) :
    (do let value ← job; update f; return value : Job α).Surfaces authority blamed full := by
  intro c s
  refine (h c s).bind fun a ha => Tells.bind (tells_update (hblind _) (Eq.refl _)) fun b hb => ?_
  subst hb
  exact tells_pure (by simpa [Account.followedBy] using ha)

theorem Surfaces.map {job : Job α} {f : α → β} {full : β → Bool}
    (h : job.Surfaces authority blamed fun value => full (f value)) :
    (f <$> job).Surfaces authority blamed full :=
  fun c s => (h c s).map

end Job

section operations

variable {σ : Type} {authority : Authority σ} {id : StructureId}

theorem surfaces_dropFiber (spot : PortSide) (fiber : LabelledFiber) :
    (dropFiber spot fiber).Surfaces authority none (·) := by
  refine surfaces_client (fun _ _ => rfl) fun c => ?_
  split
  · exact surfaces_pure _
  · refine (blames_assign spot fiber).surfaces fun answer => ?_
    cases answer with
    | ok _ => exact surfaces_report _ _
    | error e => exact surfaces_failed _ e rfl

theorem surfaces_clearPort (spot : PortSide) : (clearPort spot).Surfaces authority none (·) := by
  refine surfaces_client (fun _ _ => rfl) fun c => ?_
  split
  · exact surfaces_pure _
  · refine (blames_vacate spot).surfaces fun answer => ?_
    cases answer with
    | ok _ => exact surfaces_report _ _
    | error e => exact surfaces_failed _ e rfl

theorem surfaces_exclusively {α : Type} {full : α → Bool} {refused job : Job α}
    (hrefused : refused.Surfaces authority none full) (h : job.Surfaces authority none full) :
    (exclusively refused job).Surfaces authority none full := by
  refine surfaces_client (fun _ _ => rfl) fun c => ?_
  split
  · exact hrefused
  · exact (blames_update fun _ _ => rfl).surfaces fun _ => h.update fun _ _ => rfl

theorem surfaces_rejectFill (reason : String) :
    (rejectFill reason).Surfaces authority none (·.isFull) :=
  surfaces_report _ _

theorem surfaces_finishFill (kind : FillKind) (failure : Option Failure) (report : FillReport) :
    (finishFill kind failure report).Surfaces authority failure (·.isFull) := by
  simp only [finishFill]
  cases failure with
  | some e =>
    dsimp only
    split
    · exact surfaces_failed _ e rfl
    · exact surfaces_failed _ e rfl
  | none =>
    dsimp only
    split
    · exact surfaces_report _ _
    · exact surfaces_report _ _

theorem surfaces_dropBundle (start : PortSide) (bundle : Bundle) :
    (dropBundle start bundle).Surfaces authority none (·.isFull) := by
  refine surfaces_exclusively (surfaces_rejectFill _) (surfaces_client (fun _ _ => rfl) fun c => ?_)
  split
  · exact surfaces_rejectFill _
  · split
    · exact surfaces_rejectFill _
    · split
      · exact surfaces_rejectFill _
      · exact (blames_fillPorts _ _ _ _ _ _).surfaces fun _ => surfaces_finishFill _ _ _

theorem surfaces_dropCable (start : PortSide) (cable : Cable) (structures : List Structure) :
    (dropCable start cable structures).Surfaces authority none (·.isFull) := by
  refine surfaces_exclusively (surfaces_rejectFill _) (surfaces_client (fun _ _ => rfl) fun c => ?_)
  dsimp only
  split
  · split
    · exact surfaces_rejectFill _
    · refine (blames_cableFibers cable).surfaces fun answer => ?_
      cases answer with
      | error e => exact surfaces_finishFill .cable (some e) {}
      | ok fibers =>
        dsimp only [failureOf]
        split
        · exact surfaces_rejectFill _
        · exact (blames_fillCable _ _ _ _ _).surfaces fun _ => surfaces_finishFill _ _ _
  · exact surfaces_rejectFill _

theorem surfaces_select (record : Structure) : (select record).Surfaces authority none (·) := by
  refine surfaces_exclusively (surfaces_report _ _) ?_
  refine (blames_fetch record).surfaces fun answer => ?_
  cases answer with
  | ok _ => exact (blames_apply _).surfaces fun _ => surfaces_pure _
  | error e => exact surfaces_failed _ e rfl

theorem surfaces_deselect : deselect.Surfaces authority none (·) :=
  surfaces_exclusively (surfaces_report _ _) ((blames_apply _).surfaces fun _ => surfaces_pure _)

theorem surfaces_toggleMergeMode {full : Bool → Bool} :
    toggleMergeMode.Surfaces authority none full :=
  (blames_apply _).surfaces fun _ => surfaces_client (fun _ _ => rfl) fun _ => surfaces_pure _

theorem surfaces_togglePort (spot : PortSide) {full : Bool → Bool} :
    (togglePort spot).Surfaces authority none full :=
  (blames_apply _).surfaces fun _ => surfaces_client (fun _ _ => rfl) fun _ => surfaces_pure _

theorem blames_relisted (write : Call) :
    (Attempt.call write >>= fun _ => Attempt.call (.rowsOf id)).run.Blames
      authority none failureOf :=
  (blames_call write).attempt fun _ => blames_call _

theorem surfaces_mergeSelected : mergeSelected.Surfaces authority none (·) := by
  refine surfaces_client (fun _ _ => rfl) fun c => ?_
  dsimp only
  split
  · exact surfaces_report _ _
  · refine (blames_relisted _).surfaces fun answer => ?_
    cases answer with
    | ok rows =>
      exact (blames_apply _).surfaces fun _ => (blames_apply _).surfaces fun _ =>
        surfaces_report _ _
    | error e => exact surfaces_failed _ e rfl

theorem surfaces_unmerge (group : MergeGroupId) (ports : Option (List PortNumber)) :
    (unmerge group ports).Surfaces authority none (·) := by
  refine surfaces_client (fun _ _ => rfl) fun c => ?_
  dsimp only
  split
  · exact surfaces_pure _
  · split
    · exact surfaces_pure _
    · refine (blames_relisted _).surfaces fun answer => ?_
      cases answer with
      | ok rows => exact (blames_apply _).surfaces fun _ => surfaces_report _ _
      | error e => exact surfaces_failed _ e rfl

theorem surfaces_fillGroup (group : MergeGroupId) (ports : List PortNumber) (spot : PortSide)
    (fibers : List Fiber) (cableName : String) :
    (fillGroup id group ports spot fibers cableName).Surfaces authority none (·) := by
  refine (blames_uploadToGroup group spot _ cableName).surfaces fun answer => ?_
  cases answer with
  | ok _ => exact surfaces_report _ _
  | error e => exact surfaces_failed _ e rfl

theorem surfaces_dropOnGroup (group : MergeGroupId) (side : Side) (drop : Drop) :
    (dropOnGroup group side drop).Surfaces authority none (·) := by
  refine surfaces_client (fun _ _ => rfl) fun c => ?_
  dsimp only
  split
  · exact surfaces_pure _
  · split
    · exact surfaces_report _ _
    · cases drop with
      | fiber fiber => exact surfaces_dropFiber _ fiber
      | bundle bundle => exact surfaces_fillGroup _ _ _ _ _
      | cable cable =>
        refine (blames_cableFibers cable).surfaces fun answer => ?_
        cases answer with
        | ok fibers => exact surfaces_fillGroup _ _ _ _ _
        | error e => exact surfaces_failed _ e rfl
      | mounted _ | component _ => exact surfaces_report _ _

theorem surfaces_dropOnPort (spot : PortSide) (drop : Drop) (structures : List Structure) :
    (dropOnPort spot drop structures).Surfaces authority none (·.isFull) := by
  refine surfaces_client (fun _ _ => rfl) fun c => ?_
  split
  · exact surfaces_pure _
  · cases drop with
    | fiber fiber => exact Surfaces.map (surfaces_dropFiber spot fiber)
    | bundle bundle => exact Surfaces.map (surfaces_dropBundle spot bundle)
    | cable cable => exact Surfaces.map (surfaces_dropCable spot cable structures)
    | mounted _ | component _ => exact surfaces_report _ _

theorem surfaces_dropJsonOnPort (spot : PortSide) (j : Json) (structures : List Structure)
    (explain : Json → String) :
    (dropJsonOnPort spot j structures explain).Surfaces authority none (·.isFull) := by
  rw [dropJsonOnPort]
  split
  · exact surfaces_dropOnPort _ _ _
  · exact surfaces_report _ _

/-! ### A move -/

theorem begins_vacate (spot : PortSide) (c : Client) (s : σ) :
    (vacate id spot).run.Tells authority
      (fun a => ∀ x ∈ a.exchanges.head?, x.call = .clear id spot) c s := by
  have hcheck : (checkMerged spot).run.Tells authority (fun a => a.exchanges = []) c s :=
    tells_client (fun _ => rfl) (tells_pure rfl)
  refine hcheck.attempt (fun a merged ha _ => ?_) fun a e ha _ => by simp [ha]
  have hclear : ∀ c s, (do
      let _ ← Attempt.call (.clear id spot)
      settleMerged id merged .prune : Attempt Settlement).run.Tells authority
        (fun b => ∀ x ∈ b.exchanges.head?, x.call = .clear id spot) c s := fun c s => by
    have hcall : (Attempt.call (.clear id spot)).run.Tells authority
        (fun b => ∃ x, b.exchanges = [x] ∧ x.call = .clear id spot) c s := tells_call ⟨_, rfl, rfl⟩
    refine hcall.attempt (fun b _ hb _ => ?_) fun b _ hb _ => ?_
    · obtain ⟨x, hx, hcall⟩ := hb
      refine (blames_settleMerged merged .prune _ _).mono fun d _ => ?_
      simpa [Account.followedBy, hx] using hcall
    · obtain ⟨x, hx, hcall⟩ := hb
      simpa [hx] using hcall
  simp only [Account.followedBy, ha, List.nil_append]
  exact tells_optimistically (hclear _ _) (fun b _ hb _ => hb) fun b _ hb _ => hb

/-- The call is the one that clears the port, or comes after it. -/
def Clears (source : PortSide) (exchanges : List Exchange) (x : Exchange) : Prop :=
  ∃ before clearing after, exchanges = before ++ clearing :: after ∧
    (∃ id, clearing.call = .clear id source) ∧ x ∈ clearing :: after

/-- A failure is told with its code, or without it when it is one of the second half of a move. -/
structure Surfaced (clears : List Exchange → Exchange → Prop) (a : Account Outcome σ) : Prop where
  once : a.notices.length ≤ 1
  failed : ∀ x ∈ a.exchanges, ∀ e, x.failure? = some e → a.value.isFull = false ∧
    ∃ notice, a.notices = [notice] ∧ notice.Mentions e ∧
      (notice.code = some e.kind.code ∨ notice.code = none ∧ clears a.exchanges x)
  cheerful : ∀ notice ∈ a.notices, notice.level = .success ∨ notice.level = .info →
    ∀ x ∈ a.exchanges, x.failure? = none

theorem Surfaced.of_failed {clears : List Exchange → Exchange → Prop} {a : Account Outcome σ}
    (honce : a.notices.length ≤ 1)
    (hfailed : ∀ x ∈ a.exchanges, ∀ e, x.failure? = some e → a.value.isFull = false ∧
      ∃ notice, a.notices = [notice] ∧ notice.Mentions e ∧
        (notice.code = some e.kind.code ∨ notice.code = none ∧ clears a.exchanges x)) :
    Surfaced clears a := by
  refine ⟨honce, hfailed, fun notice hnotice hlevel x hx => ?_⟩
  refine Option.eq_none_iff_forall_ne_some.2 fun e he => ?_
  obtain ⟨-, notice', heq, hmentions, -⟩ := hfailed x hx e he
  rw [heq, List.mem_singleton] at hnotice
  subst hnotice
  rcases hlevel with hlevel | hlevel <;> simpa [hlevel] using hmentions.level

theorem Job.Surfaces.surfaced {job : Job Outcome} {clears : List Exchange → Exchange → Prop}
    (h : job.Surfaces authority none (·.isFull)) (c : Client) (s : σ) :
    job.Tells authority (Surfaced clears) c s := by
  refine (h c s).mono fun a ha => .of_failed ha.1 fun x hx e he => ?_
  obtain ⟨hfull, notice, hnotice, hmentions, hcode⟩ := ha.2 e (.inr ⟨x, hx, he⟩)
  exact ⟨hfull, notice, hnotice, hmentions, .inl hcode⟩

theorem tells_clearSource (source target : PortSide) (fiber : LabelledFiber) (c : Client) (s : σ) :
    (do
      match ← (vacate id source).run with
      | .error e =>
        let both := s!"port {source} and port {target}"
        notify (.warning s!"Fiber {fiber.fiber.absolute} is now on both {both}: {e.message}")
        return false
      | .ok () =>
        notify (.success s!"Fiber {fiber.fiber.absolute} moved to port {target}")
        return true : Job Bool).Tells authority (fun a => a.notices.length ≤ 1 ∧
          ∀ x ∈ a.exchanges, ∀ e, x.failure? = some e → a.value = false ∧
            ∃ notice, a.notices = [notice] ∧ notice.Mentions e ∧
              notice.code = none ∧ Clears source a.exchanges x) c s := by
  have hclears : ∀ {exchanges : List Exchange} {x : Exchange}, x ∈ exchanges →
      (∀ y ∈ exchanges.head?, y.call = .clear id source) → Clears source exchanges x := by
    intro exchanges x hx hhead
    cases exchanges with
    | nil => cases hx
    | cons y rest => exact ⟨[], y, rest, rfl, ⟨id, hhead y rfl⟩, hx⟩
  have hbegins : (vacate id source).run.Tells authority
      (fun a => ∀ x ∈ a.exchanges.head?, x.call = .clear id source) c s := begins_vacate source c s
  have hvacate := (blames_vacate source c s).and
    (p := fun _ exchanges => ∀ x ∈ exchanges.head?, x.call = .clear id source) hbegins
  refine hvacate.bind ?_
  rintro ⟨value, left, s', exchanges, notices⟩ ⟨⟨hsilent, -, hfailed⟩, hbegins⟩
  obtain rfl : notices = [] := hsilent
  dsimp only at hfailed hbegins ⊢
  cases value with
  | ok _ =>
    refine tells_report ⟨le_rfl, fun x hx e he => ?_⟩
    simp only [Account.followedBy, List.append_nil] at hx
    cases hfailed x hx e he
  | error e =>
    refine tells_report ⟨le_rfl, fun x hx e' he => ?_⟩
    simp only [Account.followedBy, List.append_nil] at hx ⊢
    obtain rfl := Option.some.inj (hfailed x hx e' he)
    exact ⟨trivial, _, rfl, ⟨.inl rfl, _, rfl⟩, rfl, hclears hx hbegins⟩

theorem surfaced_moveFiber (source target : PortSide) (fiber : LabelledFiber) (c : Client) (s : σ) :
    (Outcome.flag <$> moveFiber source target fiber).Tells authority
      (Surfaced (Clears source)) c s := by
  rw [moveFiber]
  split
  · exact Surfaces.surfaced (Surfaces.map (surfaces_pure _)) c s
  · refine Tells.map (tells_client (fun _ => rfl) ?_)
    split
    · exact tells_pure (.of_failed (by simp) (by simp))
    next id _ =>
      refine (blames_assign target fiber c s).bind fun a ha => ?_
      obtain ⟨hsilent, -, hfailed⟩ := ha
      cases hvalue : a.value with
      | error e =>
        have htold :
            (do notify (.ofFailure "Could not move fiber" e); return false : Job Bool).Surfaces
            authority (some e) (·) := surfaces_failed _ e rfl
        refine (htold a.client a.authority).mono fun b hb => .of_failed ?_ fun x hx e' he => ?_
        · simpa [Account.followedBy, hsilent] using hb.1
        · have hblamed : some e = some e' ∨ ∃ x ∈ b.exchanges, x.failure? = some e' := by
            rcases List.mem_append.1 hx with hx | hx
            · have hsame := hfailed x hx e' he
              rw [hvalue] at hsame
              exact .inl hsame
            · exact .inr ⟨x, hx, he⟩
          obtain ⟨hfull, notice, hnotice, hmentions, hcode⟩ := hb.2 e' hblamed
          refine ⟨hfull, notice, ?_, hmentions, .inl hcode⟩
          simpa [Account.followedBy, hsilent] using hnotice
      | ok _ =>
        refine (tells_clearSource source target fiber _ _).mono fun b hb => .of_failed ?_ ?_
        · simpa [Account.followedBy, hsilent] using hb.1
        · intro x hx e he
          rcases List.mem_append.1 hx with hx | hx
          · have := hfailed x hx e he
            simp [hvalue, failureOf] at this
          · obtain ⟨hvalue, notice, hnotice, hmentions, hcode, before, clearing, after, hrest⟩ :=
              hb.2 x hx e he
            refine ⟨hvalue, notice, ?_, hmentions,
              .inr ⟨hcode, a.exchanges ++ before, clearing, after, ?_, hrest.2⟩⟩
            · simpa [Account.followedBy, hsilent] using hnotice
            · simp [Account.followedBy, hrest.1]

def Operation.clears : Operation → List Exchange → Exchange → Prop
  | moveFiber source _ _ => Clears source
  | _ => fun _ _ => False

/-- Whatever the authority answers, an operation pushes one notice at most. When a call of it failed
there is one, a warning or an error with the message and the code of that call, and the operation
does not report to be done; a notice of another level means that no call failed. -/
theorem failures_surfaced (authority : Authority σ) (c : Client) (s : σ) :
    (∀ operation : Operation, operation.job.Tells authority (Surfaced operation.clears) c s) ∧
      ∀ spot j structures explain,
        (Outcome.drop <$> dropJsonOnPort spot j structures explain).Tells authority
          (Surfaced fun _ _ => False) c s := by
  refine ⟨fun operation => ?_, fun spot j structures explain =>
    Surfaces.surfaced (Surfaces.map (surfaces_dropJsonOnPort spot j structures explain)) c s⟩
  have hsurfaced : ∀ {α : Type} {job : Job α} {f : α → Outcome},
      job.Surfaces authority none (fun value => (f value).isFull) →
      (f <$> job).Tells authority (Surfaced operation.clears) c s := fun h =>
    Surfaces.surfaced (Surfaces.map h) c s
  cases operation with
  | select record => exact hsurfaced (surfaces_select record)
  | deselect => exact hsurfaced surfaces_deselect
  | dropFiber spot fiber => exact hsurfaced (surfaces_dropFiber spot fiber)
  | clearPort spot => exact hsurfaced (surfaces_clearPort spot)
  | moveFiber source target fiber => exact surfaced_moveFiber source target fiber c s
  | dropBundle start bundle => exact hsurfaced (surfaces_dropBundle start bundle)
  | dropCable start cable structures => exact hsurfaced (surfaces_dropCable start cable structures)
  | dropOnPort spot drop structures => exact hsurfaced (surfaces_dropOnPort spot drop structures)
  | toggleMergeMode => exact hsurfaced surfaces_toggleMergeMode
  | togglePort spot => exact hsurfaced (surfaces_togglePort spot)
  | mergeSelected => exact hsurfaced surfaces_mergeSelected
  | unmerge group ports => exact hsurfaced (surfaces_unmerge group ports)
  | dropOnGroup group side drop => exact hsurfaced (surfaces_dropOnGroup group side drop)

theorem drained_when_clearing_fails :
    let s := Server.ofPlan { failpoints := some ["clear_fiber_splice"] } Server.smallPlan
      (.numbered 0 0)
    let line := (do
      let _ ← Client.select Server.smallTray
      Client.dropFiber ⟨1, .a⟩ ⟨Server.smallFiber 1, "cable"⟩ : Job Bool).run Server.answer
        (Client.ofSettings {} (.numbered 1 0)) s
    let c := line.2.1.withLog line.2.1.notices.drain.2
    let clearing := Operation.clearPort ⟨1, .a⟩
    let moving := Operation.moveFiber ⟨1, .a⟩ ⟨2, .a⟩ ⟨Server.smallFiber 1, "cable"⟩
    let cleared := clearing.job.run Server.answer c line.2.2
    let moved := moving.job.run Server.answer c line.2.2
    line.1 = true ∧
    (clearing.job.Tells Server.answer (Surfaced clearing.clears) c line.2.2 ∧
      cleared.1 = .flag false ∧ cleared.2.1.notices.drain.1 =
        [⟨.error, "Could not clear port: failpoint clear_fiber_splice", some "rejected"⟩]) ∧
    (moving.job.Tells Server.answer (Surfaced moving.clears) c line.2.2 ∧
      moved.1 = .flag false ∧ moved.2.1.notices.drain.1 =
        [⟨.warning, "Fiber 1 is now on both port 1a and port 2a: failpoint clear_fiber_splice",
          none⟩]) := by
  intro s line c clearing moving cleared moved
  obtain ⟨hsurfaced, -⟩ := failures_surfaced Server.answer c line.2.2
  exact ⟨by decide +kernel, ⟨hsurfaced clearing, by decide +kernel⟩,
    ⟨hsurfaced moving, by decide +kernel⟩⟩

end operations
end CrossConnect
