import CrossConnect.Proofs.Client.FillRun
import CrossConnect.Proofs.Client.Notices
import CrossConnect.Proofs.Client.Terms

/-!
What a fill reports, whatever the authority answers and whatever other jobs do to the client
meanwhile: the placements that came through, one for one and structure by structure. The report is
built up along the way; the outcome is read off it at the end, and fits because a fill that gets to
its first port either places a fiber there or fails.
-/
namespace CrossConnect

open Client

/-! ### Values and exchanges of a job -/

namespace Job

variable {σ α β : Type} {c : Client}

/-- With any answers to its calls, and any client to go on from after each of them, the job ends
with a value and with exchanges as described. -/
def Yields (job : Job α) (post : α → List Exchange → Prop) (c : Client) : Prop :=
  ∀ past found, job.Abides { leaves := fun _ _ => True }
    (fun past' _ _ value => ∃ exchanges, past' = past ++ exchanges ∧
      post value exchanges) past found c

theorem Yields.mono {job : Job α} {post post' : α → List Exchange → Prop} (h : job.Yields post c)
    (hpost : ∀ value exchanges, post value exchanges → post' value exchanges) :
    job.Yields post' c :=
  fun past found => (h past found).mono fun _ _ _ value ⟨exchanges, hpast, hvalue⟩ =>
    ⟨exchanges, hpast, hpost value exchanges hvalue⟩

theorem yields_pure {value : α} {post : α → List Exchange → Prop} (h : post value []) :
    (pure value : Job α).Yields post c :=
  fun past _ => ⟨[], (List.append_nil past).symm, h⟩

theorem yields_client {next : Client → Job α} {post : α → List Exchange → Prop}
    (h : (next c).Yields post c) : (client >>= next).Yields post c :=
  h

theorem yields_update {f : Client → Client} {next : Unit → Job α} {post : α → List Exchange → Prop}
    (h : (next ()).Yields post (f c)) : (update f >>= next).Yields post c :=
  h

theorem yields_call (call : Call) :
    (Attempt.call call).run.Yields (fun answer exchanges => exchanges = [⟨call, answer⟩]) c :=
  fun _ _ => abides_call trivial trivial fun _ _ _ _ => ⟨_, rfl, rfl⟩

theorem Yields.bind {job : Job α} {next : α → Job β} {mid : α → List Exchange → Prop}
    {post : β → List Exchange → Prop} (h : job.Yields mid c)
    (hnext : ∀ value exchanges c, mid value exchanges →
      (next value).Yields (fun value more => post value (exchanges ++ more)) c) :
    (job >>= next).Yields post c := by
  refine fun past found => (h past found).bind ?_
  rintro _ found c value ⟨exchanges, rfl, hmid⟩
  refine (hnext value exchanges c hmid _ found).mono ?_
  rintro _ - - value ⟨more, rfl, hpost⟩
  exact ⟨exchanges ++ more, List.append_assoc .., hpost⟩

theorem Yields.map {job : Job α} {f : α → β} {post : β → List Exchange → Prop}
    (h : job.Yields (fun value => post (f value)) c) : (f <$> job).Yields post c :=
  fun past found => (h past found).map

theorem Yields.attempt {attempt : Attempt α} {next : α → Attempt β}
    {mid : Except Failure α → List Exchange → Prop} {post : Except Failure β → List Exchange → Prop}
    (h : attempt.run.Yields mid c)
    (hok : ∀ value exchanges c, mid (.ok value) exchanges →
      (next value).run.Yields (fun answer more => post answer (exchanges ++ more)) c)
    (herror : ∀ e exchanges, mid (.error e) exchanges → post (.error e) exchanges) :
    (attempt >>= next).run.Yields post c := by
  refine Yields.bind h fun answer exchanges c hmid => ?_
  cases answer with
  | ok value => exact hok value exchanges c hmid
  | error e => exact yields_pure ((List.append_nil exchanges).symm ▸ herror e exchanges hmid)

theorem Yields.recorded {job : Job α} {post : α → List Exchange → Prop} (h : job.Yields post c)
    {authority : Authority σ} {s : σ} {out : α × Client × σ × List Exchange}
    (hout : job.run authority.recorded c (s, []) = out) : post out.1 out.2.2.2 := by
  have hrun : ∀ (p : Progress α) (s : σ) past found,
      p.Abides { leaves := fun _ _ => True }
        (fun past' _ _ value => ∃ exchanges, past' = [] ++ exchanges ∧
          post value exchanges) past found →
      post (p.run authority.recorded (s, past)).1 (p.run authority.recorded (s, past)).2.2.2 := by
    intro p
    induction p with
    | done left value =>
      rintro s past found ⟨exchanges, hpast, hpost⟩
      rw [List.nil_append] at hpast
      exact hpast ▸ hpost
    | waits left call resume ih =>
      rintro s past found ⟨-, -, hnext⟩
      exact ih _ left _ _ left (hnext _ trivial left trivial)
  exact hout ▸ hrun (job c) s [] c (h [] c)

end Job

open Job

/-! ### Placements that came through -/

/-- The placements that were accepted, less those after which the rows were asked for in vain. -/
def confirmedOf : List Exchange → List Placement
  | [] => []
  | e :: rest =>
    (if e.succeeded && !rest.head?.any Exchange.isLostListing then e.placement?.toList else []) ++
      confirmedOf rest

theorem confirmedOf_append (exchanges : List Exchange) {more : List Exchange}
    (h : more.head?.any Exchange.isLostListing = false) :
    confirmedOf (exchanges ++ more) = confirmedOf exchanges ++ confirmedOf more := by
  induction exchanges with
  | nil => rfl
  | cons e rest ih =>
    have hnext : (rest ++ more).head?.any Exchange.isLostListing =
        rest.head?.any Exchange.isLostListing := by
      cases rest with
      | nil => exact h
      | cons => rfl
    simp only [List.cons_append, confirmedOf, hnext, ih, List.append_assoc]

inductive Tried (p : Placement) : Option Failure → List Exchange → Prop
  | unsent (e : Failure) : Tried p (some e) []
  | refused (e : Failure) : Tried p (some e) [⟨.place p, .error e⟩]
  | lost (row : Splice) (e : Failure) :
    Tried p (some e) [⟨.place p, .ok row⟩, ⟨.rowsOf p.structureId, .error e⟩]
  | confirmed (row : Splice) : Tried p none [⟨.place p, .ok row⟩]
  | reloaded (row : Splice) (rows : List Splice) :
    Tried p none [⟨.place p, .ok row⟩, ⟨.rowsOf p.structureId, .ok rows⟩]

section placements

variable {id : StructureId} {c : Client}

theorem yields_settleMerged (merged : Bool) (otherwise : Settlement) :
    (settleMerged id merged otherwise).run.Yields (fun answer exchanges =>
      exchanges = [] ∧ failureOf answer = none ∨ ∃ listed : Except Failure (List Splice),
        exchanges = [⟨.rowsOf id, listed⟩] ∧ failureOf answer = failureOf listed) c := by
  cases merged with
  | false => exact yields_pure (.inl ⟨rfl, rfl⟩)
  | true =>
    refine (yields_call (.rowsOf id)).attempt ?_ ?_
    · rintro rows _ c rfl
      exact yields_pure (.inr ⟨.ok rows, rfl, rfl⟩)
    · rintro e _ rfl
      exact .inr ⟨.error e, rfl, rfl⟩

theorem yields_optimistically (edit : Edit) {remote : Attempt Settlement}
    {post : Option Failure → List Exchange → Prop}
    (h : ∀ c, remote.run.Yields (fun answer => post (failureOf answer)) c) :
    (optimistically id edit remote).run.Yields (fun answer => post (failureOf answer)) c := by
  refine yields_client (yields_update ((h _).bind fun answer exchanges c hpost => ?_))
  cases answer with
  | ok _ | error _ => exact yields_update (yields_pure ((List.append_nil exchanges).symm ▸ hpost))

theorem yields_assign (spot : PortSide) (fiber : LabelledFiber) :
    (assign id spot fiber).run.Yields
      (fun answer => Tried ⟨id, spot, fiber.fiber.ref⟩ (failureOf answer)) c := by
  have hcheck : (checkMerged spot).run.Yields (fun _ exchanges => exchanges = []) c :=
    yields_client (yields_pure rfl)
  refine hcheck.attempt ?_ ?_
  · rintro merged _ c rfl
    refine yields_optimistically _ fun c => ?_
    refine (yields_call (.place ⟨id, spot, fiber.fiber.ref⟩)).attempt ?_ ?_
    · rintro row _ c rfl
      refine (yields_settleMerged merged (.row row)).mono fun answer exchanges h => ?_
      rcases h with ⟨rfl, hnone⟩ | ⟨rows | rows, rfl, hsame⟩
      · exact hnone ▸ .confirmed row
      · exact hsame ▸ .lost row rows
      · exact hsame ▸ .reloaded row rows
    · rintro e _ rfl
      exact .refused e
  · rintro e _ rfl
    exact .unsent e

theorem yields_placeOne (target : FillTarget) (spot : PortSide) (fiber : LabelledFiber) :
    (placeOne target spot fiber).run.Yields
      (fun answer => Tried ⟨target.structureId, spot, fiber.fiber.ref⟩ (failureOf answer)) c := by
  rw [placeOne]
  split
  · exact yields_assign spot fiber
  · refine (yields_call (.place ⟨target.structureId, spot, fiber.fiber.ref⟩)).attempt ?_ ?_
    · rintro row _ c rfl
      exact yields_pure (.confirmed row)
    · rintro e _ rfl
      exact .refused e

end placements

/-! ### Reports -/

namespace FillReport

def addAll (report : FillReport) (placements : List Placement) : FillReport :=
  placements.foldl (fun report p => report.add p.structureId) report

variable {report : FillReport} {placements : List Placement} {id : StructureId}

theorem addAll_append (report : FillReport) (placements more : List Placement) :
    report.addAll (placements ++ more) = (report.addAll placements).addAll more :=
  List.foldl_append ..

theorem placed_addAll (report : FillReport) (placements : List Placement) :
    (report.addAll placements).placed = report.placed + placements.length := by
  induction placements generalizing report with
  | nil => rfl
  | cons p placements ih =>
    have hplaced : (report.add p.structureId).placed = report.placed + 1 := rfl
    change ((report.add p.structureId).addAll placements).placed = _
    rw [ih, List.length_cons, hplaced]
    omega

theorem total_addAll (report : FillReport) (placements : List Placement) :
    (report.addAll placements).total = report.total := by
  induction placements generalizing report with
  | nil => rfl
  | cons p placements ih => exact ih (report.add p.structureId)

theorem mem_structures_add (report : FillReport) (id other : StructureId) :
    other ∈ (report.add id).structures ↔ other ∈ report.structures ∨ other = id := by
  simp only [add]
  split
  next hlast =>
    refine ⟨.inl, fun h => h.elim (·) ?_⟩
    rintro rfl
    exact List.mem_of_getLast? hlast
  next => simp

theorem mem_structures_addAll (report : FillReport) (placements : List Placement)
    (id : StructureId) :
    id ∈ (report.addAll placements).structures ↔
      id ∈ report.structures ∨ ∃ p ∈ placements, p.structureId = id := by
  induction placements generalizing report with
  | nil => simp [addAll]
  | cons p placements ih =>
    change id ∈ ((report.add p.structureId).addAll placements).structures ↔ _
    rw [ih, mem_structures_add, or_assoc, eq_comm (a := id)]
    simp only [List.mem_cons, exists_eq_or_imp]

theorem structures_addAll_of_last (hlast : report.structures.getLast? = some id)
    (h : ∀ p ∈ placements, p.structureId = id) :
    (report.addAll placements).structures = report.structures := by
  induction placements generalizing report with
  | nil => rfl
  | cons p placements ih =>
    obtain ⟨rfl, hrest⟩ := List.forall_mem_cons.1 h
    have hsame : (report.add p.structureId).structures = report.structures := if_pos hlast
    exact (ih (hsame ▸ hlast) hrest).trans hsame

theorem structures_addAll (hid : id ∉ report.structures)
    (h : ∀ p ∈ placements, p.structureId = id) :
    (report.addAll placements).structures =
      report.structures ++ if placements = [] then [] else [id] := by
  cases placements with
  | nil => exact (List.append_nil _).symm
  | cons p placements =>
    obtain ⟨rfl, hrest⟩ := List.forall_mem_cons.1 h
    have hnew : (report.add p.structureId).structures = report.structures ++ [p.structureId] :=
      if_neg fun hlast => hid (List.mem_of_getLast? hlast)
    have hlast : (report.add p.structureId).structures.getLast? = some p.structureId := by
      rw [hnew, List.getLast?_concat]
    exact (structures_addAll_of_last hlast hrest).trans hnew

end FillReport

/-! ### Stretches of a fill -/

structure Stretch (offered : Nat) (before after : FillReport) (failure : Option Failure)
    (exchanges : List Exchange) : Prop where
  report : after = before.addAll (confirmedOf exchanges)
  fits : (confirmedOf exchanges).length ≤ offered
  short : failure ≠ none → (confirmedOf exchanges).length < offered
  stopped : ∀ e ∈ exchanges.dropLast, e.succeeded = true
  kept : failure = none → ∀ e ∈ exchanges, e.succeeded = true
  opened : exchanges.head?.any Exchange.isLostListing = false

namespace Stretch

variable {offered : Nat} {before mid after report : FillReport} {failure : Option Failure}
  {exchanges more : List Exchange}

theorem nil (offered : Nat) (report : FillReport) : Stretch offered report report none [] :=
  ⟨rfl, Nat.zero_le _, fun h => absurd rfl h, List.forall_mem_nil _,
    fun _ => List.forall_mem_nil _, rfl⟩

theorem failed (hoffered : 0 < offered) (report : FillReport) (failure : Failure)
    (hnone : confirmedOf exchanges = []) (hstopped : ∀ e ∈ exchanges.dropLast, e.succeeded = true)
    (hopened : exchanges.head?.any Exchange.isLostListing = false) :
    Stretch offered report report (some failure) exchanges := by
  refine ⟨?_, ?_, fun _ => ?_, hstopped, fun h => ?_, hopened⟩
  · rw [hnone]
    rfl
  · rw [hnone]
    exact Nat.zero_le _
  · rw [hnone]
    exact hoffered
  · cases h

theorem append (h : Stretch offered before mid none exchanges)
    (h' : Stretch (offered - (confirmedOf exchanges).length) mid after failure more) :
    Stretch offered before after failure (exchanges ++ more) := by
  have hconfirmed := confirmedOf_append exchanges h'.opened
  have hfits := h.fits
  refine ⟨?_, ?_, fun hfailure => ?_, fun e he => ?_, fun hnone e he => ?_, ?_⟩
  · rw [h'.report, h.report, hconfirmed, FillReport.addAll_append]
  · have := h'.fits
    rw [hconfirmed, List.length_append]
    omega
  · have := h'.short hfailure
    rw [hconfirmed, List.length_append]
    omega
  · by_cases hmore : more = []
    · subst hmore
      rw [List.append_nil] at he
      exact h.stopped e he
    · rw [List.dropLast_append_of_ne_nil hmore] at he
      rcases List.mem_append.1 he with he | he
      · exact h.kept rfl e he
      · exact h'.stopped e he
  · rcases List.mem_append.1 he with he | he
    · exact h.kept rfl e he
    · exact h'.kept hnone e he
  · cases exchanges with
    | nil => exact h'.opened
    | cons => exact h.opened

theorem confirmed (h : Stretch offered before after failure exchanges) :
    after.placed = before.placed + (confirmedOf exchanges).length := by
  rw [h.report, FillReport.placed_addAll]

end Stretch

theorem Tried.confirmed_eq {p : Placement} {failure : Option Failure} {exchanges : List Exchange}
    (h : Tried p failure exchanges) :
    confirmedOf exchanges = if failure = none then [p] else [] := by
  cases h <;> rfl

theorem Tried.stretch {p : Placement} {failure : Option Failure} {exchanges : List Exchange}
    (h : Tried p failure exchanges) {offered : Nat} (hoffered : 0 < offered) (report : FillReport) :
    Stretch offered report (if failure = none then report.add p.structureId else report) failure
      exchanges := by
  have hconfirmed := h.confirmed_eq
  refine ⟨?_, ?_, fun hfailure => ?_, ?_, ?_, ?_⟩
  · rw [hconfirmed]
    split <;> rfl
  · rw [hconfirmed]
    split
    · exact hoffered
    · exact Nat.zero_le _
  · rw [hconfirmed, if_neg hfailure]
    exact hoffered
  all_goals cases h <;> simp [Exchange.succeeded, Exchange.failure?, Exchange.isLostListing]

section legs

variable {c : Client} {target : FillTarget} {side : Side}

structure Filled (id : StructureId) (offered : Nat) (before after : FillPass)
    (exchanges : List Exchange) : Prop
    extends Stretch offered before.report after.report after.failure exchanges where
  placed : after.placed = before.placed + (confirmedOf exchanges).length
  here : ∀ p ∈ confirmedOf exchanges, p.structureId = id

theorem Filled.nil {id : StructureId} {offered : Nat} {pass : FillPass}
    (hnone : pass.failure = none) : Filled id offered pass pass [] :=
  ⟨hnone ▸ .nil offered pass.report, rfl, List.forall_mem_nil _⟩

theorem Filled.failed {p : Placement} {e : Failure} {exchanges : List Exchange} {offered : Nat}
    (h : Tried p (some e) exchanges) (hoffered : 0 < offered) (pass : FillPass) :
    Filled p.structureId offered pass { pass with failure := some e } exchanges := by
  have hconfirmed : confirmedOf exchanges = [] := h.confirmed_eq
  refine ⟨h.stretch hoffered pass.report, ?_, ?_⟩
  · rw [hconfirmed]
    rfl
  · rw [hconfirmed]
    exact List.forall_mem_nil _

theorem Filled.add {p : Placement} {exchanges more : List Exchange} {offered : Nat}
    {before after : FillPass} (h : Tried p none exchanges)
    (hrest : Filled p.structureId offered (before.add p.structureId) after more) :
    Filled p.structureId (offered + 1) before after (exchanges ++ more) ∧
      confirmedOf (exchanges ++ more) ≠ [] := by
  have hconfirmed : confirmedOf exchanges = [p] := h.confirmed_eq
  have hall : confirmedOf (exchanges ++ more) = p :: confirmedOf more := by
    rw [confirmedOf_append exchanges hrest.opened, hconfirmed, List.singleton_append]
  refine ⟨⟨(h.stretch offered.succ_pos before.report).append ?_, ?_, ?_⟩, ?_⟩
  · rw [hconfirmed]
    exact hrest.toStretch
  · have hadd : (before.add p.structureId).placed = before.placed + 1 := rfl
    rw [hrest.placed, hall, hadd, List.length_cons]
    omega
  · rw [hall]
    exact List.forall_mem_cons.2 ⟨rfl, hrest.here⟩
  · rw [hall]
    exact List.cons_ne_nil _ _

theorem yields_fillPorts (ports : List PortNumber) (fibers : List LabelledFiber)
    (filled : List MergeGroupId) (pass : FillPass) (hnone : pass.failure = none) :
    (fillPorts target side ports fibers filled pass).Yields (fun pass' exchanges =>
      Filled target.structureId fibers.length pass pass' exchanges ∧
        (filled = [] → ports ≠ [] → fibers ≠ [] → pass'.failure = none →
          confirmedOf exchanges ≠ [])) c := by
  induction ports generalizing fibers filled pass c with
  | nil => exact yields_pure ⟨.nil hnone, fun _ hports => absurd rfl hports⟩
  | cons port ports ih =>
    cases fibers with
    | nil => exact yields_pure ⟨.nil hnone, fun _ _ hfibers => absurd rfl hfibers⟩
    | cons fiber fibers =>
      simp only [fillPorts]
      split
      next hfilled =>
        -- A port is passed over for its group only, so not before the first fiber is placed.
        refine (ih (fiber :: fibers) filled pass hnone).mono fun pass' exchanges h => ⟨h.1, ?_⟩
        rintro rfl
        simp at hfilled
      next =>
        refine (yields_placeOne target ⟨port, side⟩ fiber).bind fun answer exchanges c htried => ?_
        cases answer with
        | error e =>
          refine yields_pure ?_
          rw [List.append_nil]
          refine ⟨.failed htried (Nat.zero_lt_succ _) pass, ?_⟩
          rintro - - - ⟨⟩
        | ok _ =>
          refine (ih fibers _ (pass.add target.structureId) hnone).mono fun pass' more h => ?_
          obtain ⟨hfilled, hsome⟩ := Filled.add htried h.1
          exact ⟨hfilled, fun _ _ _ _ => hsome⟩

theorem yields_remoteTarget (record : Structure) {offered : Nat} (hoffered : 0 < offered)
    (report : FillReport) :
    (remoteTarget record side).run.Yields (fun answer exchanges =>
      Stretch offered report report (failureOf answer) exchanges ∧ confirmedOf exchanges = [] ∧
        ∀ target, answer = .ok target → target.structureId = record.id) c := by
  rw [remoteTarget]
  split
  next =>
    refine yields_pure ⟨.failed hoffered report _ rfl (List.forall_mem_nil _) rfl, rfl, ?_⟩
    rintro _ ⟨⟩
  next typeId _ =>
    refine (yields_call (.portsOf typeId)).attempt ?_ ?_
    · rintro ports _ c rfl
      refine (yields_call (.rowsOf record.id)).attempt ?_ ?_
      · rintro rows _ c rfl
        refine yields_pure ⟨⟨rfl, Nat.zero_le _, fun _ => hoffered, ?_, fun _ => ?_, rfl⟩, rfl,
          fun target heq => ?_⟩
        · simp [Exchange.succeeded, Exchange.failure?]
        · simp [Exchange.succeeded, Exchange.failure?]
        · exact (congrArg FillTarget.structureId (Except.ok.inj heq)).symm
      · rintro e _ rfl
        refine ⟨.failed hoffered report e rfl ?_ rfl, rfl, ?_⟩
        · simp [Exchange.succeeded, Exchange.failure?]
        · rintro _ ⟨⟩
    · rintro e _ rfl
      refine ⟨.failed hoffered report e rfl (List.forall_mem_nil _) rfl, rfl, ?_⟩
      rintro _ ⟨⟩

structure Dealt (ids : List StructureId) (offered : Nat) (before after : FillReport)
    (failure : Option Failure) (exchanges : List Exchange) : Prop
    extends Stretch offered before after failure exchanges where
  dealt : ∃ received, received.Sublist ids ∧ after.structures = before.structures ++ received

theorem Dealt.nil (ids : List StructureId) (offered : Nat) (report : FillReport) :
    Dealt ids offered report report none [] :=
  ⟨.nil offered report, [], List.nil_sublist ids, (List.append_nil _).symm⟩

theorem Dealt.mono {ids ids' : List StructureId} {offered : Nat} {before after : FillReport}
    {failure : Option Failure} {exchanges : List Exchange}
    (h : Dealt ids offered before after failure exchanges) (hids : ids.Sublist ids') :
    Dealt ids' offered before after failure exchanges := by
  obtain ⟨received, hsublist, hreceived⟩ := h.dealt
  exact ⟨h.toStretch, received, hsublist.trans hids, hreceived⟩

theorem Filled.dealt {id : StructureId} {offered : Nat} {before after : FillPass}
    {exchanges : List Exchange} (h : Filled id offered before after exchanges)
    (hid : id ∉ before.report.structures) :
    Dealt [id] offered before.report after.report after.failure exchanges := by
  refine ⟨h.toStretch, if confirmedOf exchanges = [] then [] else [id], ?_, ?_⟩
  · split
    · exact List.nil_sublist _
    · exact List.Sublist.refl _
  · rw [h.report, FillReport.structures_addAll hid h.here]

theorem Dealt.append {ids ids' : List StructureId} {offered : Nat} {before mid after : FillReport}
    {failure : Option Failure} {exchanges more : List Exchange}
    (h : Dealt ids offered before mid none exchanges)
    (h' : Dealt ids' (offered - (confirmedOf exchanges).length) mid after failure more) :
    Dealt (ids ++ ids') offered before after failure (exchanges ++ more) := by
  obtain ⟨received, hsublist, hreceived⟩ := h.dealt
  obtain ⟨received', hsublist', hreceived'⟩ := h'.dealt
  refine ⟨h.toStretch.append h'.toStretch, received ++ received', hsublist.append hsublist', ?_⟩
  rw [hreceived', hreceived, List.append_assoc]

/-- A fill that gets to a structure with a free port places a fiber there first, or fails. -/
structure Led (first : StructureId) (ids : List StructureId) (offered : Nat)
    (before after : FillReport) (failure : Option Failure) (exchanges : List Exchange) : Prop
    extends Dealt (first :: ids) offered before after failure exchanges where
  begun : failure = none → confirmedOf exchanges ≠ []
  first : confirmedOf exchanges ≠ [] → ∃ p ∈ confirmedOf exchanges, p.structureId = first

theorem Led.append {first : StructureId} {ids : List StructureId} {offered : Nat}
    {before mid after : FillReport} {failure : Option Failure} {exchanges more : List Exchange}
    (h : Led first [] offered before mid none exchanges)
    (h' : Dealt ids (offered - (confirmedOf exchanges).length) mid after failure more) :
    Led first ids offered before after failure (exchanges ++ more) := by
  obtain ⟨p, hp, hfirst⟩ := h.first (h.begun rfl)
  have hmem : p ∈ confirmedOf (exchanges ++ more) := by
    rw [confirmedOf_append exchanges h'.opened]
    exact List.mem_append_left _ hp
  exact ⟨h.toDealt.append h', fun _ => List.ne_nil_of_mem hmem, fun _ => ⟨p, hmem, hfirst⟩⟩

theorem Led.after {first : StructureId} {ids : List StructureId} {offered : Nat}
    {before after : FillReport} {failure : Option Failure} {exchanges more : List Exchange}
    (h : Led first ids offered before after failure more)
    (hstretch : Stretch offered before before none exchanges)
    (hnothing : confirmedOf exchanges = []) :
    Led first ids offered before after failure (exchanges ++ more) := by
  have hconfirmed : confirmedOf (exchanges ++ more) = confirmedOf more := by
    rw [confirmedOf_append exchanges h.opened, hnothing, List.nil_append]
  refine ⟨⟨hstretch.append ?_, h.dealt⟩, ?_, ?_⟩
  · rw [hnothing]
    exact h.toStretch
  · rw [hconfirmed]
    exact h.begun
  · rw [hconfirmed]
    exact h.first

theorem yields_fillTarget {fibers : List LabelledFiber} {report : FillReport}
    (hnew : target.structureId ∉ report.structures) (hports : target.ports ≠ [])
    (hfibers : fibers ≠ []) :
    (fillTarget target side fibers report).Yields (fun pass exchanges =>
      Led target.structureId [] fibers.length report pass.report pass.failure exchanges ∧
        pass.placed = (confirmedOf exchanges).length) c := by
  refine (yields_fillPorts _ _ _ _ rfl).mono fun pass exchanges ⟨hfilled, hbegun⟩ => ?_
  refine ⟨⟨hfilled.dealt hnew, hbegun rfl hports hfibers, fun hsome => ?_⟩, ?_⟩
  · obtain ⟨p, hp⟩ := List.exists_mem_of_ne_nil _ hsome
    exact ⟨p, hp, hfilled.here p hp⟩
  · exact hfilled.placed.trans (Nat.zero_add _)

theorem yields_fillCable {later : List Structure} {fibers : List LabelledFiber}
    {report : FillReport}
    (hnew : ∀ id ∈ target.structureId :: later.map (·.id), id ∉ report.structures)
    (hids : (target.structureId :: later.map (·.id)).Nodup)
    (hports : target.ports ≠ []) (hfibers : fibers ≠ [])
    (hlater : ∀ fibers report c, (∀ id ∈ later.map (·.id), id ∉ report.structures) →
      (fillLater side later fibers report).Yields (fun result =>
        Dealt (later.map (·.id)) fibers.length report result.2 result.1) c) :
    (fillCable target later side fibers report).Yields (fun result =>
      Led target.structureId (later.map (·.id)) fibers.length report result.2 result.1) c := by
  obtain ⟨hfirst, hrest⟩ := List.forall_mem_cons.1 hnew
  refine (yields_fillTarget hfirst hports hfibers).bind fun pass exchanges c ⟨hled, hplaced⟩ => ?_
  split
  next e hfailure =>
    rw [hfailure] at hled
    refine yields_pure ?_
    rw [List.append_nil]
    exact ⟨hled.toDealt.mono ((List.nil_sublist _).cons_cons _), nofun, hled.first⟩
  next hnone =>
    rw [hnone] at hled
    -- The pass has entered its own structure in the report and none of those that are left.
    refine (hlater (fibers.drop pass.placed) pass.report c fun id hid hmem => ?_).mono
      fun result more hdealt => hled.append ?_
    · obtain ⟨received, hsublist, hreceived⟩ := hled.dealt
      rw [hreceived, List.mem_append] at hmem
      refine hmem.elim (hrest id hid) fun hmem => ?_
      rw [List.mem_singleton.1 (hsublist.subset hmem)] at hid
      exact (List.nodup_cons.1 hids).1 hid
    · rw [List.length_drop, hplaced] at hdealt
      exact hdealt

theorem yields_fillLater {later : List Structure} (fibers : List LabelledFiber)
    (report : FillReport) (hids : (later.map (·.id)).Nodup)
    (hnew : ∀ id ∈ later.map (·.id), id ∉ report.structures) :
    (fillLater side later fibers report).Yields (fun result =>
      Dealt (later.map (·.id)) fibers.length report result.2 result.1) c := by
  induction later generalizing fibers report c with
  | nil => exact yields_pure (.nil _ _ _)
  | cons record later ih =>
    simp only [fillLater]
    split
    next => exact yields_pure (.nil _ _ _)
    next hfibers =>
      have hfibers : fibers ≠ [] := fun hnil => hfibers (List.isEmpty_iff.2 hnil)
      refine (yields_remoteTarget record (List.length_pos_iff.2 hfibers) report).bind ?_
      rintro answer exchanges c ⟨hstretch, hnothing, htarget⟩
      have hsilent : Dealt [] fibers.length report report (failureOf answer) exchanges :=
        ⟨hstretch, [], List.nil_sublist _, (List.append_nil _).symm⟩
      cases answer with
      | error e =>
        refine yields_pure ?_
        rw [List.append_nil]
        exact hsilent.mono (List.nil_sublist _)
      | ok target =>
        have hid := htarget target rfl
        dsimp only
        split
        next =>
          refine yields_pure ?_
          rw [List.append_nil]
          exact hsilent.mono (List.nil_sublist _)
        next hports =>
          have hports : target.ports ≠ [] := fun hnil => hports (List.isEmpty_iff.2 hnil)
          have hcable : ∀ c, (fillCable target later side fibers report).Yields (fun result =>
              Led target.structureId (later.map (·.id)) fibers.length report result.2 result.1) c :=
            fun c => yields_fillCable (hid ▸ hnew) (hid ▸ hids) hports hfibers
              fun fibers report c hnew => ih fibers report (List.nodup_cons.1 hids).2 hnew
          refine (hcable c).mono fun result more hled => ?_
          have hdealt := hled.toDealt
          rw [hid] at hdealt
          exact hsilent.append (by rw [hnothing]; exact hdealt)

end legs

/-! ### What a fill ends with -/

def Exchange.fetched : Exchange → List Fiber
  | ⟨.fibersOf _, .ok fibers⟩ => fibers
  | _ => []

/-- How many fibers there are to place; those of a cable that comes without any are fetched
first. -/
def Freight.offered (exchanges : List Exchange) : Freight → Nat
  | bundle b => b.fibers.length
  | cable k _ =>
    if k.fibers.isEmpty then ((exchanges.head?.map Exchange.fetched).getD []).length
    else k.fibers.length

/-- The report of a fill is true to its exchanges. -/
structure FillReport.Accounts (report : FillReport) (freight : Freight)
    (selected : Option SelectedStructure) (exchanges : List Exchange) : Prop where
  placed : report.placed = (confirmedOf exchanges).length
  total : report.total = freight.offered exchanges
  stopped : ∀ e ∈ exchanges.dropLast, e.succeeded = true
  received : ∀ id, id ∈ report.structures ↔ ∃ p ∈ confirmedOf exchanges, p.structureId = id
  once : report.structures.Nodup
  ordered : report.structures = [] ∨ ∃ found later, selected = some found ∧
    later ⊆ freight.structures ∧ report.structures = found.record.id :: later.map (·.id) ∧
      (found.record :: later).Pairwise (·.slotStart ≤ ·.slotStart)

/-- The outcome of a fill fits its report, and the report its exchanges. -/
def FillOutcome.Fits (freight : Freight) (selected : Option SelectedStructure)
    (exchanges : List Exchange) : FillOutcome → Prop
  | connected report => report.placed = report.total ∧ 1 ≤ report.total ∧
      report.Accounts freight selected exchanges
  | partiallyConnected report => 1 ≤ report.placed ∧ report.placed < report.total ∧
      report.Accounts freight selected exchanges
  | failed _ report => report.placed = 0 ∧ report.Accounts freight selected exchanges
  | rejected _ => ∀ e ∈ exchanges, e.call.isWrite = false

section outcomes

variable {c : Client}

theorem yields_rejectFill (reason : String) :
    (rejectFill reason).Yields
      (fun outcome exchanges => outcome = .rejected reason ∧ exchanges = []) c :=
  yields_update (yields_pure ⟨rfl, rfl⟩)

inductive Closes (report : FillReport) : Option Failure → FillOutcome → Prop
  | failed (e : Failure) (nothing : report.placed = 0) : Closes report (some e) (.failed e report)
  | stopped (e : Failure) (some : report.placed ≠ 0) :
    Closes report (.some e) (.partiallyConnected report)
  | full (all : report.placed = report.total) : Closes report none (.connected report)
  | short (less : report.placed ≠ report.total) : Closes report none (.partiallyConnected report)

theorem yields_finishFill (kind : FillKind) (failure : Option Failure) (report : FillReport) :
    (finishFill kind failure report).Yields
      (fun outcome exchanges => Closes report failure outcome ∧ exchanges = []) c := by
  simp only [finishFill]
  cases failure with
  | some e =>
    dsimp only
    split
    next h => exact yields_update (yields_pure ⟨.failed e h, rfl⟩)
    next h => exact yields_update (yields_pure ⟨.stopped e h, rfl⟩)
  | none =>
    dsimp only
    split
    next h => exact yields_update (yields_pure ⟨.full h, rfl⟩)
    next h => exact yields_update (yields_pure ⟨.short h, rfl⟩)

variable {found : SelectedStructure} {later : List Structure} {offered : Nat} {report : FillReport}
  {failure : Option Failure} {exchanges : List Exchange} {freight : Freight}

/-- The structures that a fill goes to, in their order. -/
structure Freight.Route (freight : Freight) (found : SelectedStructure) (later : List Structure) :
    Prop where
  nodup : (found.record.id :: later.map (·.id)).Nodup
  offered : later ⊆ freight.structures
  ascending : (found.record :: later).Pairwise (·.slotStart ≤ ·.slotStart)

theorem Led.accounts (h : Led found.record.id (later.map (·.id)) offered { total := offered } report
    failure exchanges) (hroute : freight.Route found later)
    (hoffered : offered = freight.offered exchanges) :
    report.Accounts freight (some found) exchanges := by
  obtain ⟨received, hsublist, hreceived⟩ := h.dealt
  rw [List.nil_append] at hreceived
  have hmem : ∀ id, id ∈ report.structures ↔ ∃ p ∈ confirmedOf exchanges, p.structureId = id := by
    intro id
    rw [h.report, FillReport.mem_structures_addAll]
    simp
  refine ⟨h.confirmed.trans (Nat.zero_add _), ?_, h.stopped, hmem, ?_, ?_⟩
  · rw [h.report, FillReport.total_addAll]
    exact hoffered
  · rw [hreceived]
    exact hroute.nodup.sublist hsublist
  · refine or_iff_not_imp_left.2 fun hsome => ?_
    -- Some structure got a fiber, and then the first one did.
    have hfirst : found.record.id ∈ received := by
      obtain ⟨id, hid⟩ := List.exists_mem_of_ne_nil _ hsome
      obtain ⟨p, hp, -⟩ := (hmem id).1 hid
      rw [← hreceived, hmem]
      exact h.first (List.ne_nil_of_mem hp)
    rcases List.sublist_cons_iff.1 hsublist with hrest | ⟨rest, rfl, hrest⟩
    · exact absurd (hrest.subset hfirst) (List.nodup_cons.1 hroute.nodup).1
    · obtain ⟨records, hrecords, rfl⟩ := List.sublist_map_iff.1 hrest
      exact ⟨found, records, rfl, fun t ht => hroute.offered (hrecords.subset ht), hreceived,
        hroute.ascending.sublist (hrecords.cons_cons _)⟩

theorem Closes.fits {outcome : FillOutcome} (hcloses : Closes report failure outcome)
    (h : Led found.record.id (later.map (·.id)) offered
      { total := offered } report failure exchanges)
    (hroute : freight.Route found later) (hoffered : offered = freight.offered exchanges) :
    outcome.Fits freight (some found) exchanges := by
  have haccounts := h.accounts hroute hoffered
  have hplaced := haccounts.placed
  have htotal := haccounts.total.trans hoffered.symm
  cases hcloses with
  | failed e nothing => exact ⟨nothing, haccounts⟩
  | stopped e some =>
    have := h.short nofun
    exact ⟨Nat.pos_of_ne_zero some, by omega, haccounts⟩
  | full all =>
    have := List.length_pos_iff.2 (h.begun rfl)
    exact ⟨all, by omega, haccounts⟩
  | short less =>
    have := List.length_pos_iff.2 (h.begun rfl)
    have := h.fits
    exact ⟨by omega, by omega, haccounts⟩

theorem yields_exclusively {α : Type} {refused job : Job α} {post : α → List Exchange → Prop}
    (hrefused : refused.Yields post c) (h : ∀ slot, job.Yields post { c with slot }) :
    (exclusively refused job).Yields post c := by
  refine yields_client ?_
  split
  · exact hrefused
  · refine yields_update ((h _).bind fun value exchanges c hpost => yields_update (yields_pure ?_))
    exact (List.append_nil exchanges).symm ▸ hpost

theorem yields_rejected (reason : String) (selected : Option SelectedStructure) :
    (rejectFill reason).Yields (fun outcome exchanges =>
      outcome.Fits freight selected exchanges) c :=
  (yields_rejectFill reason).mono fun _ _ ⟨houtcome, hnil⟩ =>
    houtcome ▸ hnil ▸ List.forall_mem_nil _

theorem exists_of_localTarget {editor : Editor} {start : PortSide} {target : FillTarget}
    (h : localTarget editor start = some target) :
    ∃ found, editor.selected = some found ∧ target.structureId = found.record.id := by
  obtain ⟨id, hid, rfl⟩ := Option.map_eq_some_iff.1 h
  obtain ⟨found, hfound, rfl⟩ := Option.map_eq_some_iff.1 hid
  exact ⟨found, hfound, rfl⟩

theorem yields_dropBundle (start : PortSide) (b : Bundle) :
    (dropBundle start b).Yields
      (fun outcome exchanges => outcome.Fits (.bundle b) c.editor.selected exchanges) c := by
  refine yields_exclusively (yields_rejected _ _) fun slot => yields_client ?_
  dsimp only
  split
  next => exact yields_rejected _ _
  next target htarget =>
    obtain ⟨found, hfound, hid⟩ := exists_of_localTarget htarget
    split
    next => exact yields_rejected _ _
    next hports =>
      split
      next => exact yields_rejected _ _
      next hfibers =>
        have hlength : ((Fiber.sortByAbsolute b.fibers).map
            (⟨·, b.cableName⟩ : Fiber → LabelledFiber)).length = b.fibers.length := by
          rw [List.length_map, Fiber.sortByAbsolute, length_sortBy]
        refine (yields_fillTarget List.not_mem_nil (by simpa using hports) ?_).bind ?_
        · exact List.ne_nil_of_length_pos (hlength ▸ List.length_pos_iff.2 (by simpa using hfibers))
        · rintro pass exchanges c ⟨hled, -⟩
          rw [hid, hlength] at hled
          refine (yields_finishFill _ _ _).mono fun outcome more ⟨hcloses, hnil⟩ => ?_
          rw [hnil, List.append_nil, hfound]
          have hroute : (Freight.bundle b).Route found [] :=
            ⟨List.nodup_singleton _, List.nil_subset _, List.pairwise_singleton _ _⟩
          refine hcloses.fits ?_ hroute rfl
          exact hled

theorem laterStructures_sublist (settings : ClientSettings) (selected : Structure)
    (structures : List Structure) : (laterStructures settings selected structures).Sublist
      (sortBy (fun t u => decide (t.slotStart ≤ u.slotStart)) (structures.filter fun t =>
        t.exposesPorts && decide (t.id ≠ selected.id) &&
          decide (selected.slotStart < t.slotStart))) := by
  simp only [laterStructures]
  split
  · split
    · exact List.take_sublist _ _
    · exact .refl _
  · exact List.nil_sublist _

theorem Freight.route_cable (settings : ClientSettings) (found : SelectedStructure) (cable : Cable)
    {structures : List Structure} (hids : (structures.map (·.id)).Nodup) :
    (Freight.cable cable structures).Route found
      (laterStructures settings found.record structures) := by
  have hsublist := laterStructures_sublist settings found.record structures
  have hmem : ∀ t ∈ laterStructures settings found.record structures,
      t ∈ structures ∧ found.record.slotStart < t.slotStart := by
    intro t ht
    have hkept := List.mem_filter.1 ((mem_sortBy _).1 (hsublist.subset ht))
    simp only [Bool.and_eq_true, decide_eq_true_eq] at hkept
    exact ⟨hkept.1, hkept.2.2⟩
  refine ⟨?_, fun t ht => (hmem t ht).1, List.pairwise_cons.2 ⟨fun t ht => ?_, ?_⟩⟩
  · rw [Freight.laterStructures_eq settings found.record cable]
    exact Freight.nodup_beyond _ settings found.record hids
  · exact UInt32.le_of_lt (hmem t ht).2
  · exact (pairwise_sortBy_number Structure.slotStart _).sublist hsublist

inductive Fetched (cable : Cable) : Except Failure (List Fiber) → List Exchange → Prop
  | carried (some : cable.fibers.isEmpty = false) :
    Fetched cable (.ok (Fiber.sortByBundle cable.fibers)) []
  | fetched (none : cable.fibers.isEmpty = true) (fibers : List Fiber) :
    Fetched cable (.ok (Fiber.sortByBundle fibers)) [⟨.fibersOf cable.id, .ok fibers⟩]
  | refused (none : cable.fibers.isEmpty = true) (e : Failure) :
    Fetched cable (.error e) [⟨.fibersOf cable.id, .error e⟩]

theorem yields_cableFibers (cable : Cable) : (cableFibers cable).run.Yields (Fetched cable) c := by
  simp only [cableFibers]
  split
  next hempty =>
    refine (yields_call (.fibersOf cable.id)).attempt ?_ ?_
    · rintro fibers _ c rfl
      exact yields_pure (.fetched hempty fibers)
    · rintro e _ rfl
      exact .refused hempty e
  next hsome => exact yields_pure (.carried (Bool.eq_false_iff.2 hsome))

section fetched

variable {cable : Cable} {structures : List Structure} {fibers : List Fiber}

theorem Fetched.reads {answer : Except Failure (List Fiber)} (h : Fetched cable answer exchanges) :
    ∀ e ∈ exchanges, e.call.isWrite = false := by
  cases h with
  | carried => exact List.forall_mem_nil _
  | fetched | refused => simp [Call.isWrite]

theorem Fetched.stretch (h : Fetched cable (.ok fibers) exchanges) (offered : Nat)
    (report : FillReport) :
    Stretch offered report report none exchanges ∧ confirmedOf exchanges = [] := by
  cases h with
  | carried => exact ⟨.nil offered report, rfl⟩
  | fetched =>
    refine ⟨⟨rfl, Nat.zero_le _, fun h => absurd rfl h, List.forall_mem_nil _,
      fun _ => ?_, rfl⟩, rfl⟩
    simp [Exchange.succeeded, Exchange.failure?]

theorem Fetched.length (h : Fetched cable (.ok fibers) exchanges) (more : List Exchange) :
    fibers.length = (Freight.cable cable structures).offered (exchanges ++ more) := by
  cases h with
  | carried hsome => simp [Freight.offered, hsome, Fiber.sortByBundle]
  | fetched hnone => simp [Freight.offered, hnone, Fiber.sortByBundle, Exchange.fetched]

theorem Fetched.fits {e : Failure} (h : Fetched cable (.error e) exchanges) {outcome : FillOutcome}
    (hcloses : Closes {} (some e) outcome) {selected : Option SelectedStructure} :
    outcome.Fits (.cable cable structures) selected exchanges := by
  cases h with
  | refused hnone =>
    cases hcloses with
    | stopped _ hsome => exact absurd rfl hsome
    | failed =>
      refine ⟨rfl, rfl, ?_, List.forall_mem_nil _, fun id => ?_, .nil, .inl rfl⟩
      · simp [Freight.offered, hnone, Exchange.fetched]
      · simp [confirmedOf, Exchange.succeeded, Exchange.failure?]

end fetched

theorem yields_dropCable (start : PortSide) (cable : Cable) {structures : List Structure}
    (hids : (structures.map (·.id)).Nodup) :
    (dropCable start cable structures).Yields (fun outcome exchanges =>
      outcome.Fits (.cable cable structures) c.editor.selected exchanges) c := by
  refine yields_exclusively (yields_rejected _ _) fun slot => yields_client ?_
  dsimp only
  split
  next found target hfound htarget =>
    obtain ⟨found', hfound', hid⟩ := exists_of_localTarget htarget
    obtain rfl := Option.some.inj (hfound.symm.trans hfound')
    split
    next => exact yields_rejected _ _
    next hports =>
      refine (yields_cableFibers cable).bind fun answer exchanges c' hfetched => ?_
      cases answer with
      | error e =>
        refine (yields_finishFill _ _ _).mono fun outcome more ⟨hcloses, hnil⟩ => ?_
        rw [hnil, List.append_nil]
        exact hfetched.fits hcloses
      | ok fibers =>
        dsimp only
        split
        next =>
          refine (yields_rejectFill _).mono fun outcome more ⟨houtcome, hnil⟩ => ?_
          rw [houtcome, hnil, List.append_nil]
          exact hfetched.reads
        next hsome =>
          have hroute := Freight.route_cable c.settings found cable hids
          have hnodup := hroute.nodup
          rw [← hid] at hnodup
          have hlength :
              (fibers.map (⟨·, cable.name⟩ : Fiber → LabelledFiber)).length = fibers.length :=
            List.length_map _
          rw [hlength]
          refine Job.Yields.bind (yields_fillCable (fun _ _ => List.not_mem_nil) hnodup
            (by simpa using hports) (by simpa using hsome) fun fibers report c hnew =>
              yields_fillLater fibers report (List.nodup_cons.1 hnodup).2 hnew)
            fun result more c hled => ?_
          refine (yields_finishFill _ _ _).mono fun outcome last ⟨hcloses, hnil⟩ => ?_
          rw [hid, hlength] at hled
          obtain ⟨hstretch, hnothing⟩ := hfetched.stretch fibers.length { total := fibers.length }
          rw [hnil, List.append_nil, hfound]
          exact hcloses.fits (hled.after hstretch hnothing) hroute (hfetched.length more)
  next => exact yields_rejected _ _

end outcomes

/-- Whatever its calls are answered, by any authority, and whatever other jobs do to the client
meanwhile, the outcome of a fill fits its report, and the report the placements that came through.
The number of fibers that are cut off after a structure is never more than there are. -/
theorem outcome_of_fill (freight : Freight) (hids : (freight.structures.map (·.id)).Nodup)
    (start : PortSide) (c : Client) :
    (freight.operation start).job.Yields (fun value exchanges =>
      ∃ outcome, value = .fill outcome ∧ outcome.Fits freight c.editor.selected exchanges) c ∧
    ∀ target side fibers report c, (fillTarget target side fibers report).Yields
      (fun pass _ => pass.placed ≤ fibers.length) c := by
  refine ⟨?_, fun target side fibers report c => ?_⟩
  · cases freight with
    | bundle b =>
      have hfits := yields_dropBundle (c := c) start b
      exact Yields.map (hfits.mono fun outcome _ hfits => ⟨outcome, rfl, hfits⟩)
    | cable cable structures =>
      have hfits := yields_dropCable (c := c) start cable hids
      exact Yields.map (hfits.mono fun outcome _ hfits => ⟨outcome, rfl, hfits⟩)
  · refine (yields_fillPorts _ _ _ _ rfl).mono fun pass _ ⟨hfilled, _⟩ => ?_
    have hplaced : pass.placed = 0 + _ := hfilled.placed
    exact (hplaced.trans (Nat.zero_add _)).trans_le hfilled.fits

namespace Session

def faltering : Authority (Server × List Exchange) :=
  Authority.lossy (fun exchanges _ => if exchanges.length = 7 then some .noFibers else none)
    Server.answer

theorem outcome_of_faltering_fill :
    let freight : Freight := .cable ⟨⟨⟨3⟩⟩, "cable", []⟩ [secondTray, Server.smallTray]
    let out := (freight.operation ⟨1, .a⟩).job.run faltering.recorded spilling.client
      ((spilling.server, []), [])
    out.1 = .fill (.partiallyConnected ⟨4, 6, [Server.smallTray.id, secondTray.id]⟩) ∧
      ∃ outcome, out.1 = .fill outcome ∧
        outcome.Fits freight spilling.client.editor.selected out.2.2.2 := by
  intro freight out
  have hids : (freight.structures.map (·.id)).Nodup := by decide +kernel
  have hfits := (outcome_of_fill freight hids ⟨1, .a⟩ spilling.client).1
  have hrun : (freight.operation ⟨1, .a⟩).job.run faltering.recorded spilling.client
      ((spilling.server, []), []) = out := rfl
  have hout : out.1 = .fill (.partiallyConnected ⟨4, 6, [Server.smallTray.id, secondTray.id]⟩) := by
    decide +kernel
  exact ⟨hout, hfits.recorded hrun⟩

end Session
end CrossConnect
