import CrossConnect.Proofs.Client.Operations
import CrossConnect.Proofs.Client.Pair

/-!
Two single steps of one client that overlap in any order of their events. The one that ends last
decides what the editor shows: its own start, when it is refused, or else the rows of the authority,
which for its own port are those of its last answer.
-/
namespace CrossConnect

/-! ### The end -/

/-- The rows that the editor shows once an accepted step has ended and nothing else is under way.
`served` is the authority as it last answered the step, `final` the authority as it is now. -/
def SingleStep.Shows (step : SingleStep) (id : StructureId) (merged : Bool)
    (served final : Registry) (rows : List Splice) : Prop :=
  if merged then rows = served.listing id
  else match step with
    | drop spot _ => ∀ port, Occupancy.row rows port =
        (if port = spot.port then served else final).stored id port
    | clear spot => hide spot (Occupancy.row rows) = hide spot (final.stored id)

structure SingleStep.Resolved (step : SingleStep) (id : StructureId) (merged : Bool)
    (served final : Server) (rows : List Splice) : Prop where
  sound : served.Sound
  ascends : Occupancy.Ascends rows
  shows : step.Shows id merged served.registry final.registry rows
  persisted : Persisted (Occupancy.row rows)
  cleared : merged = false → ∀ spot, step = .clear spot →
    hide spot (served.registry.stored id) = served.registry.stored id ∧
      ∀ port, ∀ row ∈ Occupancy.row rows port, row.isEmpty = false

namespace Bench

variable {id : StructureId} {b : Bench id} {z : Task id} {s : Server}

theorem resolved_listing (h : b.Fit) (hsound : s.Sound) (step : SingleStep) :
    step.Resolved id true s b.server
      (b.client.apply (.replaceRows id (s.registry.listing id))).editor.rows := by
  have hlisted := Registry.ascends_listing hsound.wellFormed.rowsAt id
  rw [Client.rows_replaceRows h.selected hlisted]
  refine ⟨hsound, hlisted, rfl, ?_, fun hmerged => Bool.noConfusion hmerged⟩
  rw [Registry.row_listing_eq hsound.wellFormed.rowsAt]
  exact hsound.wellFormed.persisted_stored id

theorem resolved_drop (h : b.Fit) (hsound : s.Sound) {spot : PortSide} (fiber : LabelledFiber)
    {row : Splice} {notices : Prop} (hserves : s.registry.stored id spot.port = some row)
    (hnear : (Sight.past spot notices).Same (Occupancy.row b.client.editor.rows)
      (b.server.registry.stored id)) :
    (SingleStep.drop spot fiber).Resolved id false s b.server
      (b.client.apply (.confirm id row)).editor.rows := by
  have hport : row.port = spot.port := (hsound.wellFormed.row_at hserves).2.1
  have hshows : ∀ port, Occupancy.row (b.client.apply (.confirm id row)).editor.rows port =
      (if port = spot.port then s.registry else b.server.registry).stored id port := by
    intro port
    rw [Client.row_confirm h.selected h.ascends, hport]
    by_cases hat : port = spot.port
    · rw [if_pos hat, if_pos hat, hat, hserves]
    · have hsame := hnear port
      simp only [Sight.past, if_neg hat] at hsame
      rw [if_neg hat, if_neg hat, hsame]
  refine ⟨hsound, Client.ascends_confirm h.selected h.ascends, hshows, fun port row' hrow => ?_,
    fun _ _ hclear => SingleStep.noConfusion hclear⟩
  have hrow : Occupancy.row (b.client.apply (.confirm id row)).editor.rows port = some row' := hrow
  rw [hshows] at hrow
  split at hrow
  · exact (hsound.wellFormed.row_at hrow).2.2
  · exact (h.sound.wellFormed.row_at hrow).2.2

theorem resolved_clear (h : b.Fit) (hsound : s.Sound) {spot : PortSide}
    (hserves : hide spot (s.registry.stored id) = s.registry.stored id)
    (hnear : (Sight.past spot True).Agrees (Occupancy.row b.client.editor.rows)
      (b.server.registry.stored id)) :
    (SingleStep.clear spot).Resolved id false s b.server
      (b.client.apply (.prune id)).editor.rows := by
  have hfilled := h.sound.wellFormed.filled_stored id
  have hrows : Occupancy.row (b.client.apply (.prune id)).editor.rows =
      Settlement.prune.fold (Occupancy.row b.client.editor.rows) :=
    funext fun port => Client.row_prune h.selected h.ascends
  have hkept : ∀ port, ∀ row ∈ Settlement.prune.fold (Occupancy.row b.client.editor.rows) port,
      row ∈ Occupancy.row b.client.editor.rows port ∧ row.isEmpty = false := by
    intro port row hrow
    have hrow : (Occupancy.row b.client.editor.rows port).filter (!·.isEmpty) = some row := hrow
    simpa using Option.filter_eq_some_iff.1 hrow
  have hhidden : hide spot (Settlement.prune.fold (Occupancy.row b.client.editor.rows)) =
      hide spot (b.server.registry.stored id) :=
    Sight.same_past.1 ((hnear.1.filter hfilled).trans hnear.1)
  refine ⟨hsound, Client.ascends_prune h.selected h.ascends, ?_, ?_, fun _ spot' heq => ?_⟩
  · change hide spot (Occupancy.row (b.client.apply (.prune id)).editor.rows) = _
    rw [hrows, hhidden]
  · rw [hrows]
    exact fun port row hrow => hnear.2 trivial port row (hkept port row hrow).1
  · cases heq
    rw [hrows]
    exact ⟨hserves, fun port row hrow => (hkept port row hrow).2⟩

structure Last (b : Bench id) (index : Nat) (z : Task id) (reported : Bool) : Prop where
  fit : b.Fit
  task : b.tasks[index]? = some z
  pending : z.isEnded = false
  near : z.sight.Agrees (Occupancy.row b.client.editor.rows) (b.server.registry.stored id)
  ended : (z.deliver b.client).1.phase = .ended reported

theorem Last.valid {index : Nat} {reported : Bool} (h : b.Last index z reported) :
    z.Valid b.server.registry :=
  h.fit.valid z (List.mem_of_getElem? h.task)

theorem Last.resolved {index : Nat} {reported : Bool} (hlast : b.Last index z reported) :
    (reported = false → (z.deliver b.client).2.editor.rows = z.before) ∧
      (reported = true → ∃ served, z.served = some served ∧
        z.step.Resolved id z.merged served b.server (z.deliver b.client).2.editor.rows) := by
  have hvalid := hlast.valid
  obtain ⟨h, -, hpending, hnear, hended⟩ := hlast
  obtain ⟨step, merged, before, phase, served⟩ := z
  have hrestored : (b.client.apply (.replaceRows id before)).editor.rows = before :=
    Client.rows_replaceRows h.selected hvalid.ascends
  cases phase with
  | asked => cases hended
  | fetching => cases hended
  | ended _ => cases hpending
  | told answer =>
    rcases answer with e | a
    · cases hended
      exact ⟨fun _ => hrestored, fun hreported => Bool.noConfusion hreported⟩
    · cases merged with
      | true => cases hended
      | false =>
        cases hended
        refine ⟨fun hreported => Bool.noConfusion hreported, fun _ => ?_⟩
        obtain ⟨-, s, hserved, hsound, htold⟩ := hvalid.phase
        refine ⟨s, hserved, ?_⟩
        cases step with
        | drop spot fiber => exact resolved_drop h hsound fiber (htold rfl) hnear.1
        | clear spot =>
          refine resolved_clear h hsound (htold rfl) ⟨hnear.1, fun _ => hnear.2 rfl⟩
  | fetched answer =>
    cases answer with
    | error e =>
      cases hended
      exact ⟨fun _ => hrestored, fun hreported => Bool.noConfusion hreported⟩
    | ok rows =>
      cases hended
      refine ⟨fun hreported => Bool.noConfusion hreported, fun _ => ?_⟩
      obtain ⟨hmerged, s, hserved, hsound, rfl⟩ := hvalid.phase
      obtain rfl : merged = true := hmerged
      exact ⟨s, hserved, resolved_listing h hsound step⟩

end Bench

theorem SingleStep.Resolved.rows_eq {step : SingleStep} {id : StructureId} {merged : Bool}
    {served final : Server} {rows : List Splice} (h : step.Resolved id merged served final rows)
    (hsound : final.Sound)
    (hsame : ∀ port, merged = true ∨ port = step.spot.port →
      final.registry.stored id port = served.registry.stored id port)
    (hvacant : merged = false → ∀ spot, step = .clear spot →
      (Occupancy.row rows spot.port).bind (·.fiber spot.side) = none) :
    rows = final.registry.listing id := by
  refine Registry.eq_listing hsound.wellFormed.rowsAt h.ascends fun port => ?_
  have hshows := h.shows
  simp only [SingleStep.Shows] at hshows
  cases merged with
  | true =>
    have hrows : rows = served.registry.listing id := hshows
    rw [hrows, Registry.row_listing h.sound.wellFormed.rowsAt]
    exact (hsame port (.inl rfl)).symm
  | false =>
    cases step with
    | drop spot fiber =>
      refine (hshows port).trans ?_
      by_cases hport : port = spot.port
      · rw [if_pos hport]
        exact (hsame port (.inr hport)).symm
      · rw [if_neg hport]
        rfl
    | clear spot =>
      obtain ⟨hserved, hfilled⟩ := h.cleared rfl spot rfl
      have hat := congrFun hshows port
      by_cases hport : port = spot.port
      · subst hport
        have hsame : final.registry.stored id spot.port = served.registry.stored id spot.port :=
          hsame _ (.inr rfl)
        have hbare := congrFun hserved spot.port
        simp only [hide, if_true] at hat hbare
        rw [bare_of_vacant (hvacant rfl spot rfl) (hfilled _), hsame] at hat
        exact (hat.trans hbare).trans hsame.symm
      · simp only [hide, if_neg hport] at hat
        exact hat

/-! ### Two steps -/

/-- Two single steps, of which the second one is started after the `early` events. -/
structure Overlap where
  first : SingleStep
  second : SingleStep
  early : List Move
  late : List Move

namespace Overlap

variable {id : StructureId} {b : Bench id}

def step (o : Overlap) : Fin 2 → SingleStep
  | 0 => o.first
  | 1 => o.second

def prelude (o : Overlap) : Fin 2 → List Event
  | 0 => []
  | 1 => .start o.first.operation :: o.early.map Move.event

def schedule (o : Overlap) : List Event :=
  o.prelude 1 ++ .start o.second.operation :: o.late.map Move.event

def middle (o : Overlap) (b : Bench id) : Bench id :=
  (b.start o.first).moveAll o.early

def finish (o : Overlap) (b : Bench id) : Bench id :=
  ((o.middle b).start o.second).moveAll o.late

theorem run_prelude (o : Overlap) (hid : b.client.editor.structureId = some id) :
    b.scene.run Server.answer (o.prelude 1) = (o.middle b).scene := by
  change (b.scene.step Server.answer _).run Server.answer (o.early.map Move.event) = _
  rw [Bench.step_start _ hid, Bench.run_scene]
  rfl

theorem run_schedule (o : Overlap) (hid : b.client.editor.structureId = some id)
    (hmiddle : (o.middle b).client.editor.structureId = some id) :
    b.scene.run Server.answer o.schedule = (o.finish b).scene := by
  simp only [schedule, Scene.run]
  rw [List.foldl_append]
  change ((b.scene.run Server.answer (o.prelude 1)).step Server.answer _).run Server.answer
    (o.late.map Move.event) = _
  rw [o.run_prelude hid, Bench.step_start _ hmiddle, Bench.run_scene]
  rfl

theorem served_finish (o : Overlap) (hid : b.client.editor.structureId = some id)
    (hmiddle : (o.middle b).client.editor.structureId = some id) (index : Nat) :
    (o.finish b).served index =
      (b.scene.lastServed Server.answer index o.schedule).or (b.served index) := by
  simp only [schedule]
  rw [Scene.lastServed_append, o.run_prelude hid, Scene.lastServed_start,
    Bench.step_start _ hmiddle]
  simp only [prelude]
  rw [Scene.lastServed_start, Bench.step_start _ hid, Option.or_assoc]
  have hearly : (o.middle b).served index = _ := Bench.served_moveAll _ o.early index
  rw [Bench.served_start] at hearly
  rw [← hearly, ← Bench.served_start (o.middle b) o.second]
  exact Bench.served_moveAll _ o.late index

theorem fit_of_inStep (h : InStep b.client b.server) (htasks : b.tasks = [])
    (hid : b.client.editor.structureId = some id)
    (hlistings : "get_fiber_splices" ∉ b.server.failpoints) :
    b.Fit ∧ Sight.full.Agrees (Occupancy.row b.client.editor.rows)
      (b.server.registry.stored id) := by
  have hrowsAt := h.sound.wellFormed.rowsAt
  have hrows : b.client.editor.rows = b.server.registry.listing id := by
    rw [h.rows, hid]
    rfl
  have hrow : Occupancy.row b.client.editor.rows = b.server.registry.stored id := by
    rw [hrows]
    exact Registry.row_listing_eq hrowsAt id
  refine ⟨⟨hid, ?_, h.sound, hlistings, ?_⟩, ?_, fun _ => ?_⟩
  · rw [hrows]
    exact Registry.ascends_listing hrowsAt id
  · rw [htasks]
    exact fun _ hmem => absurd hmem List.not_mem_nil
  · exact Sight.same_full.2 hrow
  · rw [hrow]
    exact h.sound.wellFormed.persisted_stored id

structure Underway (o : Overlap) (b : Bench id) (x y : Task id) : Prop where
  middle : (o.middle b).Fit
  started : (o.middle b).tasks.length = 1
  finish : (o.finish b).Fit
  both : (o.finish b).Both x y
  first : x.origin = (o.first, (Occupancy.groupOf b.client.editor.rows o.first.spot).isSome,
    b.client.editor.rows)
  second : y.origin = (o.second, (Occupancy.groupOf b.client.editor.rows o.second.spot).isSome,
    (o.middle b).client.editor.rows)

theorem underway (o : Overlap) (h : InStep b.client b.server) (htasks : b.tasks = [])
    (hid : b.client.editor.structureId = some id)
    (hlistings : "get_fiber_splices" ∉ b.server.failpoints)
    (hreads : b.scene.ReadsArrive Server.answer o.schedule) : ∃ x y, o.Underway b x y := by
  obtain ⟨hfit, hrows⟩ := fit_of_inStep h htasks hid hlistings
  have hgroup : ∀ spot, Occupancy.groupOf b.client.editor.rows spot =
      (b.server.registry.endpoint id spot).group :=
    fun spot => Bench.groupOf_of_row (congrFun (Sight.same_full.1 hrows.1) _)
  obtain ⟨hearly, hlate⟩ := Scene.readsArrive_append.1 hreads
  rw [o.run_prelude hid] at hlate
  -- The first step and the events before the second one.
  obtain ⟨x₀, hstarts⟩ := Bench.starts hfit o.first (hgroup _)
  have hfirst := hearly.2
  rw [Bench.step_start o.first hid] at hfirst
  obtain ⟨hmiddle, x₁, halone⟩ : (o.middle b).Fit ∧ ∃ x, (o.middle b).Alone x :=
    Bench.alone_moveAll (hstarts.alone htasks hrows) hstarts.fit hfirst
  have hkept : ∀ spot, Occupancy.groupOf (o.middle b).client.editor.rows spot =
      Occupancy.groupOf b.client.editor.rows spot := fun spot => by
    rw [halone.group, hgroup, ← hstarts.server]
    exact Bench.group_moveAll hstarts.fit hfirst spot
  -- The second step and the events after its start.
  obtain ⟨y₀, hstarts'⟩ := Bench.starts hmiddle o.second (halone.group _)
  have hsecond := hlate.2
  rw [Bench.step_start o.second hmiddle.selected] at hsecond
  obtain ⟨hfinish, x, y, hboth⟩ : (o.finish b).Fit ∧ ∃ x y, (o.finish b).Both x y :=
    Bench.both_moveAll (hstarts'.both halone) hstarts'.fit hsecond
  have hx : (o.middle b).tasks.map Task.origin = _ := Bench.origin_moveAll (b.start o.first) o.early
  rw [hstarts.tasks, htasks, halone.tasks] at hx
  have hy : (o.finish b).tasks.map Task.origin = _ :=
    Bench.origin_moveAll ((o.middle b).start o.second) o.late
  rw [hstarts'.tasks, halone.tasks, hboth.tasks] at hy
  obtain ⟨hx', hy⟩ := List.cons.inj hy
  have hx := (List.cons.inj hx).1
  have hy := (List.cons.inj hy).1
  refine ⟨x, y, hmiddle, ?_, hfinish, hboth, hx'.trans (hx.trans hstarts.origin), hy.trans ?_⟩
  · rw [halone.tasks]
    rfl
  · rw [hstarts'.origin, hkept]

structure Resolves (o : Overlap) (start : Scene Server) (index : Fin 2)
    (reported : Bool) : Prop where
  pending : ((start.run Server.answer o.schedule.dropLast).stage? index).bind Stage.outcome? = none
  other : (((start.run Server.answer o.schedule.dropLast).stage? index.rev).bind
    Stage.outcome?).isSome
  ended : ((start.run Server.answer o.schedule).stage? index).bind Stage.outcome? =
    some (.flag reported)

instance (o : Overlap) (start : Scene Server) (index : Fin 2) (reported : Bool) :
    Decidable (o.Resolves start index reported) :=
  decidable_of_iff (_ ∧ _ ∧ _)
    ⟨fun h => ⟨h.1, h.2.1, h.2.2⟩, fun h => ⟨h.pending, h.other, h.ended⟩⟩

theorem first_or_second (index : Fin 2) : index = 0 ∨ index = 1 := by
  omega

theorem outcome?_scene (b : Bench id) (index : Nat) :
    (b.scene.stage? index).bind Stage.outcome? = b.tasks[index]?.bind (·.stage.outcome?) := by
  rw [Bench.stage?_scene]
  cases b.tasks[index]? <;> rfl

theorem isSome_outcome? (t : Task id) : t.stage.outcome?.isSome = t.isEnded := by
  obtain ⟨step, merged, before, phase, served⟩ := t
  cases phase <;> rfl

theorem phase_of_outcome? {t : Task id} {reported : Bool}
    (h : t.stage.outcome? = some (.flag reported)) : t.phase = .ended reported := by
  obtain ⟨step, merged, before, phase, served⟩ := t
  cases phase with
  | ended r =>
    obtain rfl : r = reported := Outcome.flag.inj (Option.some.inj h)
    rfl
  | _ => cases h

theorem due_of_ended {t : Task id} {g : Sight} {shown kept : PortNumber → Option Splice}
    (hended : t.isEnded = true) (h : t.Due g shown kept) : g.Agrees shown kept := by
  obtain ⟨step, merged, before, phase, served⟩ := t
  cases phase with
  | ended r => exact h
  | _ => cases hended

theorem refused_at_start (o : Overlap) (hlate : o.late = [])
    (hid : b.client.editor.structureId = some id) (hmiddle : (o.middle b).Fit)
    (hstarted : (o.middle b).tasks.length = 1) {index : Fin 2} {reported : Bool}
    (hresolves : o.Resolves b.scene index reported) :
    reported = false ∧ (b.scene.run Server.answer o.schedule).client.editor.rows =
      (b.scene.run Server.answer (o.prelude index)).client.editor.rows := by
  have hrun : b.scene.run Server.answer o.schedule = ((o.middle b).start o.second).scene := by
    rw [o.run_schedule hid hmiddle.selected]
    simp only [finish]
    rw [hlate]
    rfl
  have hdrop : o.schedule.dropLast = o.prelude 1 := by
    simp only [schedule]
    rw [hlate]
    exact List.dropLast_concat
  obtain ⟨-, hother, hended⟩ := hresolves
  rw [hdrop, o.run_prelude hid, outcome?_scene] at hother
  rw [hrun, outcome?_scene] at hended
  rw [hrun]
  obtain rfl | rfl := first_or_second index
  · have hnone : (o.middle b).tasks[1]? = none := List.getElem?_eq_none (by omega)
    rw [show ((Fin.rev 0 : Fin 2) : Nat) = 1 from rfl, hnone] at hother
    cases hother
  · rw [o.run_prelude hid]
    exact Bench.refused_of_ended o.second (hstarted ▸ hended)

theorem exists_last (o : Overlap) (hlate : o.late ≠ []) (h : InStep b.client b.server)
    (htasks : b.tasks = []) (hid : b.client.editor.structureId = some id)
    (hlistings : "get_fiber_splices" ∉ b.server.failpoints)
    (hreads : b.scene.ReadsArrive Server.answer o.schedule) {index : Fin 2} {reported : Bool}
    (hresolves : o.Resolves b.scene index reported) :
    ∃ (b' : Bench id) (z : Task id), b'.Last index z reported ∧
      o.finish b = b'.move (.deliver index) ∧
      z.origin = (o.step index, (Occupancy.groupOf b.client.editor.rows (o.step index).spot).isSome,
        (b.scene.run Server.answer (o.prelude index)).client.editor.rows) := by
  obtain ⟨late, m, hconcat⟩ : ∃ late m, o.late = late ++ [m] :=
    ⟨_, _, (List.dropLast_concat_getLast hlate).symm⟩
  -- The schedule without its last event.
  let o' : Overlap := { o with late }
  have hschedule : o.schedule = o'.schedule ++ [m.event] := by
    simp only [schedule]
    rw [hconcat]
    simp [o', prelude]
  have hfinish : o.finish b = (o'.finish b).move m := by
    simp only [finish]
    rw [hconcat]
    exact List.foldl_append
  rw [hschedule] at hreads
  have hreads := Scene.readsArrive_append.1 hreads
  obtain ⟨x, y, hunder⟩ := o'.underway h htasks hid hlistings hreads.1
  have hmiddle : (o.middle b).client.editor.structureId = some id := hunder.middle.selected
  have hrun : b.scene.run Server.answer o'.schedule = (o'.finish b).scene :=
    o'.run_schedule hid hmiddle
  obtain ⟨hpending, hother, hended⟩ := hresolves
  rw [hschedule, List.dropLast_concat, hrun, outcome?_scene] at hpending hother
  rw [o.run_schedule hid hmiddle, hfinish, outcome?_scene] at hended
  have hz : ∃ z : Task id, (o'.finish b).tasks[(index : Nat)]? = some z ∧
      z.origin = (o.step index, (Occupancy.groupOf b.client.editor.rows (o.step index).spot).isSome,
        (b.scene.run Server.answer (o.prelude index)).client.editor.rows) ∧
      (z.isEnded = false → z.sight.Agrees (Occupancy.row (o'.finish b).client.editor.rows)
        ((o'.finish b).server.registry.stored id)) := by
    rw [hunder.both.tasks] at hother ⊢
    obtain rfl | rfl := first_or_second index
    · refine ⟨x, rfl, hunder.first, fun hpending => ?_⟩
      have hended : y.isEnded = true := (isSome_outcome? y).symm.trans hother
      exact due_of_ended hended (hunder.both.second hpending)
    · refine ⟨y, rfl, ?_, fun hpending => ?_⟩
      · rw [o.run_prelude hid]
        exact hunder.second
      · have hended : x.isEnded = true := (isSome_outcome? x).symm.trans hother
        exact due_of_ended hended (hunder.both.first hpending)
  obtain ⟨z, hz, horigin, hnear⟩ := hz
  -- It has not ended before, so the last event is an answer that it hears.
  have hpending : z.isEnded = false := by
    rw [hz] at hpending
    rw [← isSome_outcome?, show z.stage.outcome? = none from hpending]
    rfl
  obtain rfl : m = .deliver index := by
    obtain ⟨z', hz', houtcome⟩ := Option.bind_eq_some_iff.1 hended
    refine Bench.deliver_of_ended hz hpending hz' ?_
    rw [← isSome_outcome?, houtcome]
    rfl
  have hlt : (index : Nat) < (o'.finish b).tasks.length := (List.getElem?_eq_some_iff.1 hz).1
  rw [Bench.move_deliver hz, List.getElem?_set_self hlt] at hended
  exact ⟨o'.finish b, z, ⟨hunder.finish, hz, hpending, hnear hpending, phase_of_outcome? hended⟩,
    hfinish, horigin⟩

/-- The rows that the editor shows once both steps have ended. A step that is refused last brings
back the rows of its own start, whatever became of the other one. After an accepted one the rows are
those of the authority, for the port of the step itself as of its last answer; only a cleared port
may still show a fiber. -/
theorem rows_of_last (o : Overlap) (c : Client) (s : Server) {id : StructureId} (hstep : InStep c s)
    (hid : c.editor.structureId = some id) (hlistings : "get_fiber_splices" ∉ s.failpoints)
    (hreads : Scene.ReadsArrive Server.answer ⟨c, s, []⟩ o.schedule) (index : Fin 2)
    (reported : Bool) (hresolves : o.Resolves ⟨c, s, []⟩ index reported) :
    let start : Scene Server := ⟨c, s, []⟩
    let last := start.run Server.answer o.schedule
    let rows := last.client.editor.rows
    let step := o.step index
    let merged := (Occupancy.groupOf c.editor.rows step.spot).isSome
    (reported = false → rows = (start.run Server.answer (o.prelude index)).client.editor.rows) ∧
    (reported = true → (∀ row ∈ rows, row.id.isTemporary = false) ∧
      ∃ served, start.lastServed Server.answer index o.schedule = some served ∧
        step.Shows id merged served.registry last.authority.registry rows ∧
        ((∀ port, merged = true ∨ port = step.spot.port →
            last.authority.registry.stored id port = served.registry.stored id port) →
          (merged = false → ∀ spot, step = .clear spot →
            (Occupancy.row rows spot.port).bind (·.fiber spot.side) = none) →
          InStep last.client last.authority)) := by
  let b : Bench id := ⟨c, s, []⟩
  obtain ⟨x, y, hunder⟩ := o.underway (b := b) hstep rfl hid hlistings hreads
  by_cases hlate : o.late = []
  · obtain ⟨rfl, hrows⟩ :=
      o.refused_at_start (b := b) hlate hid hunder.middle hunder.started hresolves
    exact ⟨fun _ => hrows, fun hreported => Bool.noConfusion hreported⟩
  obtain ⟨b', z, hlast, hfinish, horigin⟩ :=
    o.exists_last (b := b) hlate hstep rfl hid hlistings hreads hresolves
  have heditor := Task.deliver_editor hlast.valid hlast.fit.selected hlast.fit.ascends
  obtain ⟨hrefused, haccepted⟩ := hlast.resolved
  have hstep' : z.step = o.step index := congrArg Prod.fst horigin
  have hmerged : z.merged = (Occupancy.groupOf c.editor.rows (o.step index).spot).isSome :=
    congrArg (·.2.1) horigin
  have hbefore : z.before = _ := congrArg (·.2.2) horigin
  have hrun : Scene.run Server.answer ⟨c, s, []⟩ o.schedule = (o.finish b).scene :=
    o.run_schedule (b := b) hid hunder.middle.selected
  rw [Bench.move_deliver hlast.task] at hfinish
  dsimp only
  rw [hrun, hfinish]
  refine ⟨fun hreported => (hrefused hreported).trans hbefore, fun hreported => ?_⟩
  obtain ⟨served, hserved, hresolved⟩ := haccepted hreported
  rw [hstep', hmerged] at hresolved
  refine ⟨fun row hmem => ?_, served, ?_, hresolved.shows, fun hsame hvacant => ?_⟩
  · exact hresolved.persisted row.port row
      ((Occupancy.row_eq_some_iff hresolved.ascends.portsDiffer).2 ⟨hmem, rfl⟩)
  · have hserves := o.served_finish (b := b) hid hunder.middle.selected index
    rw [hfinish, Bench.served_of_set hlast.task (z.served_deliver b'.client)] at hserves
    simp only [Bench.served] at hserves
    rw [hlast.task] at hserves
    exact (hserves.trans (Option.or_none ..)).symm.trans hserved
  · have hrows : (z.deliver b'.client).2.editor.rows =
        b'.server.registry.shown (z.deliver b'.client).2.editor.structureId := by
      rw [heditor.2]
      exact hresolved.rows_eq hlast.fit.sound hsame hvacant
    exact ⟨hlast.fit.sound, hrows⟩

def smallSession : Session :=
  (Session.ofPlan {} (.numbered 0 0) {} Server.smallPlan (.numbered 0 0)).takeAll
    [{ operation := .select Server.smallTray }]

def smallStart : Scene Server :=
  ⟨smallSession.client, smallSession.server, []⟩

theorem inStep_smallStart : InStep smallStart.client smallStart.authority :=
  Session.inStep_session _ _ _ _ _ _ (by decide +kernel) (by decide +kernel) (by decide +kernel)

def smallDrop (spot : PortSide) (absolute : UInt32) : SingleStep :=
  .drop spot ⟨Server.smallFiber absolute, "cable"⟩

def lateRefusal : Overlap where
  first := smallDrop ⟨1, .a⟩ 1
  second := smallDrop ⟨2, .a⟩ 2
  early := []
  late := [.serve 1, .deliver 1, .lose 0 .noFibers, .deliver 0]

def lateAnswer : Overlap where
  first := smallDrop ⟨1, .a⟩ 1
  second := smallDrop ⟨1, .b⟩ 2
  early := []
  late := [.serve 0, .serve 1, .deliver 1, .deliver 0]

def lateClear : Overlap where
  first := smallDrop ⟨1, .a⟩ 1
  second := .clear ⟨1, .a⟩
  early := []
  late := [.serve 0, .serve 1, .deliver 0, .deliver 1]

/-- Rows that were confirmed are taken back, rows that are out of date replace newer ones, and a
fiber that was cleared is shown again. -/
theorem out_of_step_after_overlap :
    InStep smallStart.client smallStart.authority ∧
      ∀ run ∈ [(lateRefusal, 0, false), (lateAnswer, 0, true), (lateClear, 1, true)],
        run.1.Resolves smallStart run.2.1 run.2.2 ∧
        smallStart.ReadsArrive Server.answer run.1.schedule ∧
        let last := smallStart.run Server.answer run.1.schedule
        last.client.editor.rows ≠ last.authority.registry.shown last.client.editor.structureId :=
  ⟨inStep_smallStart, by decide +kernel⟩

def earlyRefusal : Overlap where
  first := smallDrop ⟨1, .a⟩ 1
  second := smallDrop ⟨2, .a⟩ 2
  early := []
  late := [.serve 0, .lose 1 .noFibers, .deliver 1, .deliver 0]

theorem rows_of_last_after_refusal :
    let last := smallStart.run Server.answer earlyRefusal.schedule
    let rows := last.client.editor.rows
    rows.map (fun row => (row.port, (row.fiber .a).isSome)) = [(1, true)] ∧
      (∀ row ∈ rows, row.id.isTemporary = false) ∧
      ∃ served, smallStart.lastServed Server.answer 0 earlyRefusal.schedule = some served ∧
        ∀ port, Occupancy.row rows port = (if port = 1 then served.registry
          else last.authority.registry).stored Server.smallTray.id port := by
  have hid : smallStart.client.editor.structureId = some Server.smallTray.id := by decide +kernel
  have h := rows_of_last earlyRefusal smallStart.client smallStart.authority inStep_smallStart hid
    (by decide +kernel) (by decide +kernel) 0 true (by decide +kernel)
  obtain ⟨hpersisted, served, hserved, hshows, -⟩ := h.2 rfl
  exact ⟨by decide +kernel, hpersisted, served, hserved, hshows⟩

end Overlap
end CrossConnect
