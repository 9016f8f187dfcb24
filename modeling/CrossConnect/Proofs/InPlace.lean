import CrossConnect.Proofs.Server

/-!
The calls of the authority as procedures that change its record where it lies, one write after
another: what was written by the time a call is refused stays written. Every refusal comes before
the first write, so they do what the operations on whole registries do.
-/
namespace CrossConnect

/-- A procedure on the registry; the registry it leaves counts also when it fails. -/
abbrev Work : Type → Type :=
  EStateM Failure Registry

namespace Work

def ask {α : Type} (question : Registry → Except Failure α) : Work α := do
  match question (← get) with
  | .ok a => return a
  | .error e => throw e

def refuseIf (p : Prop) [Decidable p] (e : Failure) : Work Unit :=
  if p then throw e else pure ()

end Work

namespace Registry

open Work

/-! ### The procedures -/

def writeEndpointNow (id : StructureId) (side : Side) (f : Endpoint → Endpoint)
    (port : PortNumber) : Work Unit := do
  let row ← modifyGet (·.openRow id port)
  modify fun r => { r with rows := r.rows.insert (id, port) (row.mapEndpoint side f) }

def writeEndpointsNow (id : StructureId) (side : Side) (f : PortNumber → Endpoint → Endpoint)
    (ports : List PortNumber) : Work Unit :=
  forM ports fun port => writeEndpointNow id side (f port) port

def placeNow (p : Placement) : Work Splice := do
  ask (·.requirePort p.structureId p.spot)
  let fiber ← ask (·.terminate p.fiber)
  let ports := (← get).fanOut p.structureId p.spot
  writeEndpointsNow p.structureId p.spot.side (fun _ e => { e with fiber := some fiber }) ports
  modifyGet (·.openRow p.structureId p.spot.port)

def forgetUploadNow (id : StructureId) (spot : PortSide) : Work Unit := do
  if let some group := (← get).groupAt id spot then
    modify fun r => { r with groups := r.groups.modify group.id ({ · with fibers := [] }) }

def vacateNow (id : StructureId) (side : Side) (ports : List PortNumber) : Work Unit :=
  forM ports fun port =>
    modify fun r => { r with rows := r.rows.modify (id, port) (·.setFiber side none) }

def clearNow (id : StructureId) (spot : PortSide) : Work ClearOutcome := do
  let _ ← ask (·.structure? id)
  forgetUploadNow id spot
  let ports := (← get).fanOut id spot
  vacateNow id spot.side ports
  modify (·.prune id)
  return ⟨!(← get).rows.contains (id, spot.port)⟩

def requireUngroupedNow (id : StructureId) (side : Side) (ports : List PortNumber) : Work Unit :=
  forM ports fun port => do
    ask (·.requirePort id ⟨port, side⟩)
    refuseIf ((← get).groupAt id ⟨port, side⟩).isSome (.alreadyGrouped ⟨port, side⟩)

def mergeNow (limits : Limits) (id : StructureId) (ports : List PortNumber) (side : Side) :
    Work MergeGroupId := do
  let ports ← ask fun _ => PortRun.validate ports (some limits.groupSize)
  requireUngroupedNow id side ports
  let fiber := (← get).firstFiber id side ports
  let uuid ← modifyGet fun r => (r.ids.next.1, { r with ids := r.ids.next.2 })
  let group : MergeGroup := { id := ⟨uuid⟩, structureId := id, side, ports, fibers := [] }
  modify fun r => { r with groups := r.groups.insert group.id group }
  writeEndpointsNow id side (fun _ _ => ⟨fiber, some group.id, some group.span⟩) ports
  return group.id

def unmergeNow (groupId : MergeGroupId) (ports : List PortNumber) : Work Unit := do
  let group ← ask (·.group? groupId)
  let requested := sortNumbers ports
  refuseIf (requested ≠ group.ports) (.wrongGroupPorts requested group)
  writeEndpointsNow group.structureId group.side group.keepFirst group.ports
  modify fun r => { r with groups := r.groups.erase groupId }
  modify (·.prune group.structureId)

def uploadNow (limits : Limits) (groupId : MergeGroupId) (side : Side) (fibers : List FiberRef) :
    Work Unit := do
  let group ← ask (·.group? groupId)
  refuseIf (group.side ≠ side) (.wrongGroupSide group side)
  refuseIf fibers.isEmpty .noFibers
  refuseIf (group.ports.length < fibers.length ∨ limits.uploadSize < fibers.length)
    (.tooManyFibers fibers.length group)
  let shown ← fibers.mapM fun fiber => ask (·.terminate fiber)
  writeEndpointsNow group.structureId side (fun _ e => { e with fiber := shown.head? }) group.ports
  modify fun r => { r with groups := r.groups.modify groupId ({ · with fibers := shown }) }

def performNow (limits : Limits) : (c : Call) → Work c.Answer
  | .portsOf id => ask (·.portsOf id)
  | .rowsOf id => ask (·.rowsOf id)
  | .fibersOf id => ask (·.fibersOf id)
  | .place p => placeNow p
  | .clear id spot => clearNow id spot
  | .merge id ports side => do
    let _ ← mergeNow limits id ports side
  | .unmerge group ports => unmergeNow group ports
  | .upload group side fibers => uploadNow limits group side fibers

end Registry

namespace Work

variable {α β γ : Type} {r : Registry}

/-! ### Questions before writes -/

def outcome (r : Registry) : Except Failure (α × Registry) → EStateM.Result Failure Registry α
  | .ok (a, r') => .ok a r'
  | .error e => .error e r

@[simp] theorem outcome_ok (r : Registry) (done : α × Registry) :
    outcome r (.ok done) = .ok done.1 done.2 :=
  rfl

@[simp] theorem outcome_error (r : Registry) (e : Failure) :
    outcome (α := α) r (.error e) = .error e r :=
  rfl

theorem run_ask (question : Registry → Except Failure α) (r : Registry) :
    (ask question).run r = outcome r ((·, r) <$> question r) := by
  simp only [ask, EStateM.run_bind, EStateM.run_get]
  cases question r <;> rfl

theorem run_ask_bind {question : Registry → Except Failure α} {next : α → Work β}
    {rest : α → Except Failure (β × Registry)}
    (h : ∀ a, question r = .ok a → (next a).run r = outcome r (rest a)) :
    (ask question >>= next).run r = outcome r (question r >>= rest) := by
  rw [EStateM.run_bind, run_ask]
  cases hquestion : question r with
  | error e => rfl
  | ok a => exact h a hquestion

theorem run_refuseIf_bind {p : Prop} [Decidable p] {e : Failure} {next : Unit → Work β}
    {f : γ → β × Registry} {refused rest : Except Failure γ} (hrefused : refused = .error e)
    (h : ¬p → (next ()).run r = outcome r (f <$> rest)) :
    (refuseIf p e >>= next).run r = outcome r (f <$> if p then refused else rest) := by
  by_cases hp : p
  · rw [refuseIf, if_pos hp, if_pos hp, hrefused]
    rfl
  · rw [refuseIf, if_neg hp, if_neg hp, pure_bind]
    exact h hp

theorem run_mapM_ask (question : α → Registry → Except Failure β) (l : List α) (r : Registry) :
    (l.mapM fun a => ask (question a)).run r = outcome r ((·, r) <$> l.mapM (question · r)) := by
  induction l with
  | nil => rfl
  | cons a l ih =>
    simp only [List.mapM_cons, map_bind]
    refine run_ask_bind fun b _ => ?_
    rw [EStateM.run_bind, ih]
    cases l.mapM (question · r) <;> rfl

theorem run_forM_eq_foldl {write : α → Work Unit} {f : Registry → α → Registry}
    (h : ∀ a r, (write a).run r = .ok () (f r a)) (l : List α) (r : Registry) :
    (forM l write).run r = .ok () (l.foldl f r) := by
  induction l generalizing r with
  | nil => rfl
  | cons a l ih => simp [List.forM_cons, h, ih]

end Work

namespace Registry

open Work

variable {r : Registry} {limits : Limits}

/-! ### Writes -/

@[simp] theorem run_writeEndpointNow (id : StructureId) (side : Side) (f : Endpoint → Endpoint)
    (port : PortNumber) (r : Registry) :
    (writeEndpointNow id side f port).run r = .ok () (r.writeEndpoint id side f port) := by
  simp [writeEndpointNow, writeEndpoint]

@[simp] theorem run_writeEndpointsNow (id : StructureId) (side : Side)
    (f : PortNumber → Endpoint → Endpoint) (ports : List PortNumber) (r : Registry) :
    (writeEndpointsNow id side f ports).run r = .ok () (r.writeEndpoints id side f ports) :=
  run_forM_eq_foldl (fun port r => run_writeEndpointNow id side (f port) port r) ports r

theorem fanOut_eq_getD (r : Registry) (id : StructureId) (spot : PortSide) :
    r.fanOut id spot = ((r.groupAt id spot).map MergeGroup.ports).getD [spot.port] := by
  simp only [fanOut]
  cases r.groupAt id spot <;> rfl

theorem ports_find?_map {α : Type} {f g : α → MergeGroup} {covers : MergeGroup → Bool}
    (hcovers : ∀ a, covers (f a) = covers (g a)) (hports : ∀ a, (f a).ports = (g a).ports)
    (l : List α) :
    ((l.map f).find? covers).map MergeGroup.ports =
      ((l.map g).find? covers).map MergeGroup.ports := by
  have hcovers : covers ∘ f = covers ∘ g := funext hcovers
  have hports : MergeGroup.ports ∘ f = MergeGroup.ports ∘ g := funext hports
  rw [List.find?_map, List.find?_map, Option.map_map, Option.map_map, hcovers, hports]

theorem fanOut_withoutUpload (r : Registry) (id : StructureId) (spot : PortSide) :
    { r with groups := r.withoutUpload id spot }.fanOut id spot = r.fanOut id spot := by
  rw [fanOut_eq_getD, fanOut_eq_getD]
  congr 1
  simp only [groupAt, withoutUpload]
  split
  · simp only [Table.values, Table.modify, Table.mapEntries, List.map_map]
    refine ports_find?_map (fun entry => ?_) (fun entry => ?_) _
    all_goals
      simp only [Function.comp_apply]
      split <;> rfl
  · rfl

@[simp] theorem run_forgetUploadNow (id : StructureId) (spot : PortSide) (r : Registry) :
    (forgetUploadNow id spot).run r = .ok () { r with groups := r.withoutUpload id spot } := by
  simp only [forgetUploadNow, withoutUpload, EStateM.run_bind, EStateM.run_get]
  cases r.groupAt id spot <;> rfl

theorem vacated_cons (r : Registry) (id : StructureId) (side : Side) (port : PortNumber)
    (ports : List PortNumber) :
    { r with rows := r.rows.modify (id, port) (·.setFiber side none) }.vacated id side ports =
      r.vacated id side (port :: ports) := by
  apply Table.ext
  simp only [vacated, Table.modify, Table.mapEntries, List.map_map]
  refine List.map_congr_left fun entry _ => ?_
  by_cases hport : entry.1 = (id, port)
  · by_cases hports : port ∈ ports <;> simp [hport, hports, Splice.setFiber_setFiber]
  · have hne : entry.1.1 = id → entry.1.2 ≠ port := fun hid heq => hport (Prod.ext hid heq)
    by_cases hid : entry.1.1 = id <;> simp [hport, hid, hne]

@[simp] theorem run_vacateNow (id : StructureId) (side : Side) (ports : List PortNumber)
    (r : Registry) :
    (vacateNow id side ports).run r = .ok () { r with rows := r.vacated id side ports } := by
  induction ports generalizing r with
  | nil => simp [vacateNow, vacated, Table.mapEntries]
  | cons port ports ih =>
    simp only [vacateNow] at ih
    simp [vacateNow, List.forM_cons, ih, vacated_cons]

/-! ### Calls -/

theorem run_placeNow (p : Placement) (r : Registry) :
    (placeNow p).run r = outcome r (r.place p) := by
  refine run_ask_bind fun _ _ => run_ask_bind fun fiber _ => ?_
  simp [pure, Except.pure]

theorem run_clearNow (id : StructureId) (spot : PortSide) (r : Registry) :
    (clearNow id spot).run r = outcome r (r.clear id spot) := by
  refine run_ask_bind fun _ _ => ?_
  simp only [EStateM.run_bind, run_forgetUploadNow, EStateM.run_get, fanOut_withoutUpload,
    run_vacateNow, EStateM.run_modify]
  rfl

theorem run_requireUngroupedNow (id : StructureId) (side : Side) (ports : List PortNumber)
    (r : Registry) :
    (requireUngroupedNow id side ports).run r =
      outcome r ((·, r) <$> r.requireUngrouped id side ports) := by
  induction ports with
  | nil => rfl
  | cons port ports ih =>
    simp only [requireUngroupedNow] at ih
    simp only [requireUngroupedNow, requireUngrouped, List.forM_cons, map_bind, bind_assoc]
    refine run_ask_bind fun _ _ => ?_
    rw [EStateM.run_bind, EStateM.run_get]
    exact run_refuseIf_bind rfl fun _ => ih

theorem run_mergeNow (id : StructureId) (ports : List PortNumber) (side : Side) (r : Registry) :
    (mergeNow limits id ports side).run r = outcome r (r.merge limits id ports side) := by
  refine run_ask_bind fun sorted _ => ?_
  rw [EStateM.run_bind, run_requireUngroupedNow]
  cases r.requireUngrouped id side sorted with
  | error e => rfl
  | ok _ => simp

theorem run_unmergeNow (groupId : MergeGroupId) (ports : List PortNumber) (r : Registry) :
    (unmergeNow groupId ports).run r = outcome r (((), ·) <$> r.unmerge groupId ports) := by
  rw [unmerge, map_bind]
  refine run_ask_bind fun group _ => run_refuseIf_bind rfl fun _ => ?_
  simp only [EStateM.run_bind, run_writeEndpointsNow, EStateM.run_modify]
  rfl

theorem run_uploadNow (groupId : MergeGroupId) (side : Side) (fibers : List FiberRef)
    (r : Registry) :
    (uploadNow limits groupId side fibers).run r =
      outcome r (((), ·) <$> r.upload limits groupId side fibers) := by
  rw [upload, map_bind]
  refine run_ask_bind fun group _ => run_refuseIf_bind rfl fun _ => run_refuseIf_bind rfl fun _ =>
    run_refuseIf_bind rfl fun _ => ?_
  rw [EStateM.run_bind, run_mapM_ask]
  cases fibers.mapM r.terminate with
  | error e => rfl
  | ok shown => simp

theorem run_performNow (limits : Limits) (c : Call) (r : Registry) :
    (performNow limits c).run r = outcome r (r.perform limits c) := by
  cases c with
  | portsOf id => exact run_ask ..
  | rowsOf id => exact run_ask ..
  | fibersOf id => exact run_ask ..
  | place p => exact run_placeNow ..
  | clear id spot => exact run_clearNow ..
  | merge id ports side =>
    simp only [performNow, perform, EStateM.run_bind, run_mergeNow]
    cases r.merge limits id ports side <;> rfl
  | unmerge group ports => exact run_unmergeNow ..
  | upload group side fibers => exact run_uploadNow ..

end Registry

namespace Server

/-- A call that is recorded, refused by a failpoint or else carried out where the record lies. -/
def answerNow (s : Server) (c : Call) : Except Failure c.Answer × Server :=
  let s := { s with log := s.log ++ [c] }
  match s.failpointFor c with
  | some key => (.error (.failpoint key), s)
  | none =>
    match (Registry.performNow s.limits c).run s.registry with
    | .ok a registry => (.ok a, { s with registry })
    | .error e registry => (.error e, { s with registry })

theorem answerNow_eq (s : Server) (c : Call) : s.answerNow c = s.answer c := by
  simp only [answerNow, answer, Registry.run_performNow]
  cases failpointFor { s with log := s.log ++ [c] } c with
  | some key => rfl
  | none => cases s.registry.perform s.limits c <;> rfl

/-- Each call adds itself to the end of the log and nothing else, and one that is refused leaves the
rest of the authority as it was, although it works on the record in place. -/
theorem answerNow_atomic (s : Server) (c : Call) :
    s.answerNow c = s.answer c ∧ (s.answerNow c).2.log = s.log ++ [c] ∧
      ∀ e, (s.answerNow c).1 = .error e → (s.answerNow c).2 = { s with log := s.log ++ [c] } := by
  rw [answerNow_eq]
  refine ⟨rfl, ?_⟩
  simp only [answer]
  split
  · simp
  · split <;> simp

theorem answerNow_atomic_merge :
    let s := (ofPlan {} smallPlan (.numbered 0 0)).serveAll [.call (.merge smallTray.id [2, 3] .a)]
    let c := Call.merge smallTray.id [1, 2] .a
    (s.answerNow c).1 = .error (.alreadyGrouped ⟨2, .a⟩) ∧
      (s.answerNow c).2 = { s with log := s.log ++ [c] } := by
  intro s c
  have hrefused : (s.answerNow c).1 = .error (.alreadyGrouped ⟨2, .a⟩) := by rfl
  exact ⟨hrefused, (answerNow_atomic s c).2.2 _ hrefused⟩

end Server
end CrossConnect
