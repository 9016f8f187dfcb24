import CrossConnect.Proofs.Client.Operations
import CrossConnect.Proofs.Client.Restoring
import CrossConnect.Proofs.Client.SingleStep
import CrossConnect.Proofs.Registry.Placing

/-!
A client whose rows are out of date because others have written to the same structure. Whether it
lists all rows anew after its own write it decides by the group that its rows show. The authority
spreads the write over the group that it has, so a group that the rows do not show is left half
shown.
-/
namespace CrossConnect

open Occupancy

/-! ### Rows that came from an authority at some time -/

/-- A port side outside all groups has no group left over. -/
def Splice.Tidy (row : Splice) : Prop :=
  ∀ side, (row.endpoint side).group = none → (row.endpoint side).span = none

theorem Splice.Tidy.setFiber {row : Splice} (h : row.Tidy) (side : Side)
    (fiber : Option Termination) : (row.setFiber side fiber).Tidy := by
  intro other
  have hkept : ((row.setFiber side fiber).endpoint other).group = (row.endpoint other).group ∧
      ((row.setFiber side fiber).endpoint other).span = (row.endpoint other).span := by
    cases side <;> cases other <;> exact ⟨rfl, rfl⟩
  rw [hkept.1, hkept.2]
  exact h other

structure TidyRows (rows : List Splice) : Prop where
  ascends : Ascends rows
  tidy : ∀ row ∈ rows, row.Tidy

def RowsRule.tidy : RowsRule where
  shown := TidyRows
  listed := TidyRows
  told := Splice.Tidy
  shown_nil := ⟨.nil, by simp⟩
  sortRows_eq h := sortRows_eq_self h.ascends
  replaced h := ⟨ascends_sortRows h.ascends.portsDiffer, forall_sortRows h.tidy⟩
  placed id side fiber ports ids h :=
    { ascends := ascends_sortRows (portsDiffer_placeOnAll h.ascends.portsDiffer)
      tidy := forall_sortRows (forall_placeOnAll h.tidy (fun _ hrow => hrow.setFiber _ _)
        (fun _ _ side _ => by cases side <;> rfl) ports) }
  vacated ports side h :=
    ⟨h.ascends.vacateAll ports side,
      forall_vacateAll h.tidy (fun _ hrow => hrow.setFiber _ _) ports⟩
  confirmed h hrow :=
    ⟨ascends_sortRows (portsDiffer_confirmRow h.ascends.portsDiffer),
      forall_sortRows (forall_confirmRow h.tidy hrow)⟩
  pruned h := ⟨h.ascends.filter _, fun row hrow => h.tidy row (List.mem_of_mem_filter hrow)⟩

namespace Registry

variable {r r' : Registry} {id : StructureId} {limits : Limits}

theorem WellFormed.tidy_row (h : r.WellFormed limits) {port : PortNumber} {row : Splice}
    (hrow : r.rows.find? (id, port) = some row) : row.Tidy := by
  intro side hgroup
  have hendpoint : r.endpoint id ⟨port, side⟩ = row.endpoint side := endpoint_of_row hrow
  rw [← hendpoint] at hgroup ⊢
  exact h.span_of_ungrouped hgroup

theorem WellFormed.tidyRows_listing (h : r.WellFormed limits) (id : StructureId) :
    TidyRows (r.listing id) := by
  refine ⟨ascends_listing h.rowsAt id, fun row hrow => ?_⟩
  obtain ⟨port, hfind⟩ := mem_listing_iff.1 hrow
  exact h.tidy_row hfind

theorem Sound.hears_tidy (h : r.Sound limits) {call : Call} {a : call.Answer}
    (hperform : r.perform limits call = .ok (a, r')) (hids : r'.ids.Distinct) :
    RowsRule.tidy.Hears call (.ok a) := by
  cases call with
  | rowsOf id =>
    obtain ⟨rfl, -⟩ := rowsOf_eq_ok hperform
    exact h.wellFormed.tidyRows_listing id
  | place p =>
    have hrow := (h.wellFormed.place_eq_ok hperform).2.1
    exact (h.perform hperform hids).wellFormed.tidy_row hrow
  | _ => trivial

end Registry

/-! ### Sessions with others -/

namespace Server

/-- The authority as a client meets it that others call too: their requests are served before a call
of its own, and some of its own calls get lost. -/
def shared (others : List Exchange → List Request) (loses : List Exchange → Call → Option Failure) :
    Authority (Server × List Exchange) :=
  fun line call => Authority.lossy loses answer (line.1.serveAll (others line.2), line.2) call

variable {others : List Exchange → List Request} {loses : List Exchange → Call → Option Failure}

theorem backwardClosed_shared :
    Job.BackwardClosed (shared others loses) fun line => line.1.registry.ids.Distinct :=
  fun line call hids => (frame_serveAll line.1 (others line.2)).distinct
    ((frame_lossy loses (line.1.serveAll (others line.2), line.2) call).distinct hids)

def partner (others : List Exchange → List Request)
    (loses : List Exchange → Call → Option Failure) : Partner (Server × List Exchange) where
  authority := shared others loses
  final line := line.1.registry.ids.Distinct
  closed := backwardClosed_shared
  rule := .tidy
  good line := line.1.Sound
  answers line call hsound hids := by
    have hserved : (line.1.serveAll (others line.2)).Sound := hsound.serveAll _
      ((frame_lossy loses (line.1.serveAll (others line.2), line.2) call).distinct hids)
    simp only [shared] at hids ⊢
    obtain ⟨-, hlimits, ⟨⟨e, herror⟩, hsame⟩ | ⟨a, hok, hperform⟩⟩ :=
      lossy_cases loses (line.1.serveAll (others line.2), line.2) call
    · rw [herror]
      exact ⟨hserved.of_same hlimits hsame, by cases call <;> trivial⟩
    · rw [hok]
      exact ⟨hserved.of_perform hlimits hperform hids,
        Registry.Sound.hears_tidy hserved hperform hids⟩

end Server

/-- What can take place at an authority with several clients, as seen by one of them: a turn of its
own, during which requests of others can be served, or a request of another. -/
inductive Happening
  | own (turn : Turn) (others : List Exchange → List Request)
  | other (request : Request)

namespace Session

def happen (session : Session) : Happening → Session
  | .own turn others =>
    let (_, client, server, record) := turn.operation.job.run (Server.shared others turn.loses)
      session.client ({ session.server with failpoints := turn.failpoints }, [])
    { client, server, records := session.records ++ [record] }
  | .other request => { session with server := session.server.serve request }

def happenAll (session : Session) (happenings : List Happening) : Session :=
  happenings.foldl happen session

variable {session : Session}

structure Kept (session : Session) : Prop where
  sound : session.server.Sound
  rows : TidyRows session.client.editor.rows

theorem distinct_happen {happening : Happening}
    (h : (session.happen happening).server.registry.ids.Distinct) :
    session.server.registry.ids.Distinct := by
  cases happening with
  | own turn others => exact Server.backwardClosed_shared.run turn.operation.job h
  | other request => exact (Server.frame_serve session.server request).distinct h

theorem distinct_happenAll {happenings : List Happening}
    (h : (session.happenAll happenings).server.registry.ids.Distinct) :
    session.server.registry.ids.Distinct := by
  induction happenings generalizing session with
  | nil => exact h
  | cons happening happenings ih => exact distinct_happen (ih h)

theorem Kept.happen (h : session.Kept) {happening : Happening}
    (hids : (session.happen happening).server.registry.ids.Distinct) :
    (session.happen happening).Kept := by
  cases happening with
  | own turn others =>
    have hrestores : (Server.partner others turn.loses).Restores turn.operation.job _ _ :=
      Partner.restores_job turn.operation
    have hleft := hrestores session.client
      ({ session.server with failpoints := turn.failpoints }, []) h.sound h.rows hids
    exact ⟨hleft.good, hleft.shown⟩
  | other request => exact ⟨h.sound.serve request hids, h.rows⟩

theorem Kept.happenAll (h : session.Kept) {happenings : List Happening}
    (hids : (session.happenAll happenings).server.registry.ids.Distinct) :
    (session.happenAll happenings).Kept := by
  induction happenings generalizing session with
  | nil => exact h
  | cons happening happenings ih => exact ih (h.happen (distinct_happenAll hids)) hids

theorem kept_ofPlan (settings : ClientSettings) (clientIds : IdSource)
    (serverSettings : ServerSettings) (plan : NodePlan) (ids : IdSource) :
    (ofPlan settings clientIds serverSettings plan ids).Kept :=
  ⟨Server.sound_ofPlan serverSettings plan ids, RowsRule.tidy.shown_nil⟩

end Session

/-! ### What rows show of a port side -/

section shown

variable {rows : List Splice} {row : Splice} {id : StructureId} {spot : PortSide} {c : Client}

def Occupancy.endpoint (rows : List Splice) (spot : PortSide) : Endpoint :=
  ((Occupancy.row rows spot.port).map (·.endpoint spot.side)).getD {}

theorem Registry.endpoint_listing {r : Registry} (h : r.RowsAt) (id : StructureId)
    (spot : PortSide) : Occupancy.endpoint (r.listing id) spot = r.endpoint id spot := by
  simp only [Occupancy.endpoint, Registry.endpoint, row_listing h]

theorem Occupancy.group_endpoint (rows : List Splice) (spot : PortSide) :
    (endpoint rows spot).group = groupOf rows spot := by
  simp only [endpoint, groupOf]
  cases Occupancy.row rows spot.port <;> rfl

theorem TidyRows.endpoint_eq_empty (h : TidyRows rows)
    (hvacant : (Occupancy.endpoint rows spot).isVacant = true) :
    Occupancy.endpoint rows spot = {} := by
  simp only [Occupancy.endpoint] at hvacant ⊢
  cases hrow : Occupancy.row rows spot.port with
  | none => rfl
  | some found =>
    rw [hrow] at hvacant
    exact Endpoint.eq_empty hvacant (h.tidy found (List.mem_of_find?_eq_some hrow) spot.side)

namespace Client

theorem endpoint_confirm (hid : c.editor.structureId = some id) (h : Ascends c.editor.rows)
    (hport : row.port = spot.port) :
    Occupancy.endpoint (c.apply (.confirm id row)).editor.rows spot = row.endpoint spot.side := by
  simp only [Occupancy.endpoint]
  rw [row_confirm hid h, if_pos hport.symm]
  rfl

theorem endpoint_vacate (hid : c.editor.structureId = some id)
    (hnone : groupOf c.editor.rows spot = none) :
    Occupancy.endpoint (c.apply (.vacate id spot)).editor.rows spot =
      { Occupancy.endpoint c.editor.rows spot with fiber := none } := by
  simp only [Occupancy.endpoint]
  rw [row_vacate hid hnone]
  cases Occupancy.row c.editor.rows spot.port with
  | none => rfl
  | some found => simp [Splice.setFiber]

theorem endpoint_prune (hid : c.editor.structureId = some id) (h : TidyRows c.editor.rows) :
    Occupancy.endpoint (c.apply (.prune id)).editor.rows spot =
      Occupancy.endpoint c.editor.rows spot := by
  cases hrow : Occupancy.row c.editor.rows spot.port with
  | none => simp [Occupancy.endpoint, row_prune hid h.ascends, hrow]
  | some found =>
    cases hempty : found.isEmpty with
    | false => simp [Occupancy.endpoint, row_prune hid h.ascends, hrow, Option.filter_some, hempty]
    | true =>
      rw [h.endpoint_eq_empty]
      · simp [Occupancy.endpoint, row_prune hid h.ascends, hrow, Option.filter_some, hempty]
      · simp [Occupancy.endpoint, hrow, Splice.isEmpty_iff.1 hempty spot.side]

end Client

end shown

/-! ### A write of its own -/

namespace SingleStep

variable {step : SingleStep} {id : StructureId} {c : Client} {line : Server × List Exchange}
  {loses : List Exchange → Call → Option Failure}

def settled (step : SingleStep) (id : StructureId) (rows : List Splice) (r : Registry)
    (a : (step.write id).Answer) : Settlement :=
  if (groupOf rows step.spot).isSome then .listing (r.listing id) else step.settlement id a

theorem run_of_success (step : SingleStep) (hid : c.editor.structureId = some id)
    (hsuccess : (step.operation.job.run (Authority.lossy loses Server.answer) c line).1 =
      .flag true) :
    let run := step.operation.job.run (Authority.lossy loses Server.answer) c line
    ∃ a, line.1.registry.perform line.1.limits (step.write id) = .ok (a, run.2.2.1.registry) ∧
      run.2.1.editor = ((c.apply (step.edit id)).apply
        ((step.settled id c.editor.rows run.2.2.1.registry a).edit id)).editor := by
  simp only [Job.run, job_eq step c hid] at hsuccess ⊢
  cases hport : Client.requirePort c.editor step.spot with
  | error e => simp [hport, Progress.run] at hsuccess
  | ok _ =>
    rw [hport] at hsuccess
    simp only [Progress.run] at hsuccess ⊢
    obtain ⟨-, -, ⟨⟨e, herror⟩, -⟩ | ⟨a, hok, hperform⟩⟩ :=
      Server.lossy_cases loses line (step.write id)
    · rw [herror] at hsuccess
      cases hsuccess
    · rw [hok] at hsuccess ⊢
      simp only [settled]
      cases hgroup : (groupOf c.editor.rows step.spot).isSome with
      | false =>
        exact ⟨a, hperform, rfl⟩
      | true =>
        rw [hgroup] at hsuccess
        simp only [resume, Progress.run, if_true] at hsuccess ⊢
        obtain ⟨-, -, ⟨⟨e, herror⟩, -⟩ | ⟨rows, hlisted, hread⟩⟩ := Server.lossy_cases loses
          (Authority.lossy loses Server.answer line (step.write id)).2 (.rowsOf id)
        · rw [herror] at hsuccess
          cases hsuccess
        · obtain ⟨rfl, hsame⟩ := Registry.rowsOf_eq_ok hread
          rw [hlisted]
          refine ⟨a, ?_, ?_⟩
          · exact hsame ▸ hperform
          · exact hsame ▸ rfl

theorem reaches_of_changed {r r' : Registry} {limits : Limits} {a : (step.write id).Answer}
    {spot : PortSide} (h : r.WellFormed limits)
    (hperform : r.perform limits (step.write id) = .ok (a, r'))
    (hchanged : r'.endpoint id spot ≠ r.endpoint id spot) :
    spot.side = step.spot.side ∧ spot.port ∈ r.fanOut id step.spot := by
  by_contra hapart
  refine hchanged ?_
  cases step with
  | drop place fiber => exact h.endpoint_place_of_not hperform fun hreach => hapart hreach.2
  | clear place => exact h.endpoint_clear_of_not hperform fun hreach => hapart hreach.2

theorem endpoint_settlement {r r' : Registry} {limits : Limits} {a : (step.write id).Answer}
    (h : r.WellFormed limits) (hperform : r.perform limits (step.write id) = .ok (a, r'))
    (hid : c.editor.structureId = some id) (hrows : TidyRows c.editor.rows)
    (hnone : groupOf c.editor.rows step.spot = none) :
    let shown := Occupancy.endpoint ((c.apply (step.edit id)).apply
      ((step.settlement id a).edit id)).editor.rows step.spot
    shown.fiber = (r'.endpoint id step.spot).fiber ∧
      ((r.endpoint id step.spot).group = none → shown = r'.endpoint id step.spot) := by
  cases step with
  | drop spot fiber =>
    have hrow := (h.place_eq_ok hperform).2.1
    have hport : a.port = spot.port := ((h.place hperform).rowsAt hrow).2.1
    have hplaced := Client.ascends_place spot fiber.termination hid hrows.ascends
    have hshown : Occupancy.endpoint ((c.apply (.place id spot fiber.termination)).apply
        (.confirm id a)).editor.rows spot = r'.endpoint id spot := by
      rw [Client.endpoint_confirm ((Client.structureId_apply rfl).trans hid) hplaced hport,
        Registry.endpoint_of_row hrow]
    exact ⟨congrArg _ hshown, fun _ => hshown⟩
  | clear spot =>
    have hnone : groupOf c.editor.rows spot = none := hnone
    have hvacated : TidyRows (c.apply (.vacate id spot)).editor.rows := by
      rw [Client.editor_apply hid rfl]
      exact RowsRule.tidy.vacated _ _ hrows
    have hcleared : Occupancy.endpoint ((c.apply (.vacate id spot)).apply
        (.prune id)).editor.rows spot = {} := by
      rw [Client.endpoint_prune ((Client.structureId_apply rfl).trans hid) hvacated]
      refine hvacated.endpoint_eq_empty ?_
      rw [Client.endpoint_vacate hid hnone]
      simp [Endpoint.isVacant, Occupancy.group_endpoint, hnone]
    have hrecorded : r'.endpoint id spot = { r.endpoint id spot with fiber := none } := by
      rw [(h.clear_fiberChange hperform).endpoint, if_pos ⟨rfl, rfl, r.mem_fanOut_self id spot⟩]
    refine ⟨?_, fun hgroup => ?_⟩
    · exact (congrArg (·.fiber) hcleared).trans (congrArg (·.fiber) hrecorded).symm
    · refine hcleared.trans ((hrecorded.trans ?_).symm)
      have hgroup : (r.endpoint id spot).group = none := hgroup
      exact Endpoint.eq_empty (by simp [Endpoint.isVacant, hgroup]) h.span_of_ungrouped

/-- What a client shows after a write of its own that was accepted: the fiber of the port side that
the write is about, and all that the write has changed, unless the authority has a group there and
the client did not show one. -/
structure Corrects (step : SingleStep) (id : StructureId) (r r' : Registry)
    (rows rows' : List Splice) : Prop where
  fiber : (Occupancy.endpoint rows' step.spot).fiber = (r'.endpoint id step.spot).fiber
  changed : (r.endpoint id step.spot).group = none ∨ (groupOf rows step.spot).isSome = true →
    ∀ spot, r'.endpoint id spot ≠ r.endpoint id spot →
      Occupancy.endpoint rows' spot = r'.endpoint id spot

theorem selected_of_success
    (hsuccess : (step.operation.job.run (Authority.lossy loses Server.answer) c line).1 =
      .flag true) :
    ∃ id, c.editor.structureId = some id := by
  cases hid : c.editor.structureId with
  | some id => exact ⟨id, rfl⟩
  | none =>
    cases step with
    | drop spot fiber =>
      simp [operation, Operation.job, Client.dropFiber, hid] at hsuccess
    | clear spot =>
      simp [operation, Operation.job, Client.clearPort, hid] at hsuccess

theorem corrects_of_success (hsound : line.1.Sound) (hrows : TidyRows c.editor.rows)
    (hid : c.editor.structureId = some id) :
    let run := step.operation.job.run (Authority.lossy loses Server.answer) c line
    run.2.2.1.registry.ids.Distinct → run.1 = .flag true →
      step.Corrects id line.1.registry run.2.2.1.registry c.editor.rows run.2.1.editor.rows := by
  intro run hids hsuccess
  obtain ⟨a, hperform, heditor⟩ := step.run_of_success hid hsuccess
  rw [heditor]
  have h := hsound.wellFormed
  have h' := (hsound.perform hperform hids).wellFormed
  simp only [settled]
  cases hgroup : groupOf c.editor.rows step.spot with
  | some key =>
    have hlisted : ∀ spot, Occupancy.endpoint ((c.apply (step.edit id)).apply
        (.replaceRows id (run.2.2.1.registry.listing id))).editor.rows spot =
          run.2.2.1.registry.endpoint id spot := fun spot => by
      rw [Client.rows_replaceRows ((Client.structureId_apply (step.scope_edit id)).trans hid)
        (Registry.ascends_listing h'.rowsAt id), Registry.endpoint_listing h'.rowsAt]
    exact ⟨congrArg _ (hlisted step.spot), fun _ spot _ => hlisted spot⟩
  | none =>
    obtain ⟨hfiber, hown⟩ := endpoint_settlement h hperform hid hrows hgroup
    refine ⟨hfiber, fun hwhen spot hchanged => ?_⟩
    have hnone := hwhen.resolve_right (by simp [hgroup])
    obtain ⟨hside, hport⟩ := reaches_of_changed h hperform hchanged
    have hsame := (h.eq_or_group_of_mem_fanOut hside hport).resolve_right (by simp [hnone])
    rw [hsame]
    exact hown hnone

end SingleStep

/-- A write that a client reports as done puts its port right, and with it all that the write has
changed, whatever others did to the structure before that. Only what a group at that port takes
along which the client was not shown may stay out of date. -/
theorem corrected_by_write (settings : ClientSettings) (clientIds : IdSource)
    (serverSettings : ServerSettings) (plan : NodePlan) (ids : IdSource)
    (happenings : List Happening) (step : SingleStep) (failpoints : List String)
    (loses : List Exchange → Call → Option Failure) :
    let session := (Session.ofPlan settings clientIds serverSettings plan ids).happenAll happenings
    let run := step.operation.job.run (Authority.lossy loses Server.answer) session.client
      ({ session.server with failpoints }, [])
    run.2.2.1.registry.ids.Distinct → run.1 = .flag true →
      ∃ id, session.client.editor.structureId = some id ∧
        step.Corrects id session.server.registry run.2.2.1.registry session.client.editor.rows
          run.2.1.editor.rows := by
  intro session run hids hsuccess
  have hkept : session.Kept :=
    (Session.kept_ofPlan settings clientIds serverSettings plan ids).happenAll
      ((Server.backwardClosed_lossy loses).run step.operation.job hids)
  obtain ⟨id, hid⟩ := SingleStep.selected_of_success hsuccess
  exact ⟨id, hid, SingleStep.corrects_of_success hkept.sound hkept.rows hid hids hsuccess⟩

theorem corrected_by_write_to_group :
    let happenings : List Happening :=
      [.own { operation := .select Server.smallTray } (fun _ => []),
        .own { operation := .dropFiber ⟨3, .b⟩ ⟨Server.smallFiber 3, "cable"⟩ } fun exchanges =>
          if exchanges = [] then [.call (.merge Server.smallTray.id [1, 2] .a)] else [],
        .own { operation := .select Server.smallTray } (fun _ => []),
        .other (.call (.place ⟨Server.smallTray.id, ⟨2, .a⟩, (Server.smallFiber 2).ref⟩))]
    let session := (Session.ofPlan {} (.numbered 0 0) {} Server.smallPlan (.numbered 0 0)).happenAll
      happenings
    let step := SingleStep.drop ⟨1, .a⟩ ⟨Server.smallFiber 1, "cable"⟩
    let run := step.operation.job.run
      (Authority.lossy (fun _ _ => none) Server.answer) session.client
      ({ session.server with failpoints := [] }, [])
    (∀ spot ∈ [⟨1, .a⟩, ⟨2, .a⟩], run.2.2.1.registry.endpoint Server.smallTray.id spot ≠
        session.server.registry.endpoint Server.smallTray.id spot) ∧
      (groupOf session.client.editor.rows step.spot).isSome = true ∧
      ∃ id, session.client.editor.structureId = some id ∧
        step.Corrects id session.server.registry run.2.2.1.registry session.client.editor.rows
          run.2.1.editor.rows :=
  ⟨by decide +kernel, by decide +kernel,
    corrected_by_write _ _ _ _ _ _ _ _ _ (by decide +kernel) (by decide +kernel)⟩

/-- Another client merges the port with its neighbour, and the fiber that is put on the port then
does not show on the neighbour. -/
theorem neighbour_out_of_date :
    let session := (Session.ofPlan {} (.numbered 0 0) {} Server.smallPlan (.numbered 0 0)).happenAll
      [.own { operation := .select Server.smallTray } (fun _ => []),
        .other (.call (.merge Server.smallTray.id [1, 2] .a))]
    let step := SingleStep.drop ⟨1, .a⟩ ⟨Server.smallFiber 1, "cable"⟩
    let run := step.operation.job.run
      (Authority.lossy (fun _ _ => none) Server.answer) session.client (session.server, [])
    let neighbour : PortSide := ⟨2, .a⟩
    run.1 = .flag true ∧ run.2.2.1.registry.ids.Distinct ∧
      run.2.2.1.registry.endpoint Server.smallTray.id neighbour ≠
        session.server.registry.endpoint Server.smallTray.id neighbour ∧
      Occupancy.endpoint run.2.1.editor.rows neighbour ≠
        run.2.2.1.registry.endpoint Server.smallTray.id neighbour := by
  decide +kernel

end CrossConnect
