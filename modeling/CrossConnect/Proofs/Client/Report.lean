import CrossConnect.Proofs.Client.Operations

/-!
What an operation reports, compared with what the authority did. A write and the listing fetched
after it succeed or fail as one, so a lost listing is reported as a failure although the write
stays. That is the only way in which a report and the authority differ.
-/
namespace CrossConnect

open Client

def Exchange.isPlacement (e : Exchange) : Bool :=
  match e.call with
  | .place _ => e.succeeded
  | _ => false

def endsLost (exchanges : List Exchange) : Bool :=
  match exchanges.reverse with
  | f :: e :: _ => e.isAccepted && f.isLostListing
  | _ => false

theorem endsLost_append_two (exchanges : List Exchange) (e f : Exchange) :
    endsLost (exchanges ++ [e] ++ [f]) = (e.isAccepted && f.isLostListing) := by
  simp [endsLost]

theorem endsLost_append (exchanges : List Exchange) {e : Exchange} (h : e.isLostListing = false) :
    endsLost (exchanges ++ [e]) = false := by
  simp only [endsLost]
  rw [List.reverse_append]
  cases exchanges.reverse <;> simp [h]

inductive Written (write : Call) (line : Server × List Exchange) :
    Bool → Server × List Exchange → Prop
  | unsent : Written write line false line
  | refused {line'} (e : Failure) (record : line'.2 = line.2 ++ [⟨write, .error e⟩])
      (same : line'.1.registry = line.1.registry) : Written write line false line'
  | lost {line'} (a : write.Answer) (id : StructureId) (e : Failure)
      (record : line'.2 = line.2 ++ [⟨write, .ok a⟩] ++ [⟨.rowsOf id, .error e⟩])
      (performed : line.1.registry.perform line.1.limits write = .ok (a, line'.1.registry)) :
      Written write line false line'
  | confirmed {line'} (a : write.Answer) (record : line'.2 = line.2 ++ [⟨write, .ok a⟩])
      (performed : line.1.registry.perform line.1.limits write = .ok (a, line'.1.registry)) :
      Written write line true line'
  | reloaded {line'} (a : write.Answer) (id : StructureId) (rows : List Splice)
      (record : line'.2 = line.2 ++ [⟨write, .ok a⟩] ++ [⟨.rowsOf id, .ok rows⟩])
      (performed : line.1.registry.perform line.1.limits write = .ok (a, line'.1.registry)) :
      Written write line true line'

section written

variable {loses : List Exchange → Call → Option Failure} {line : Server × List Exchange}
  {c : Client} {id : StructureId} {α β : Type}

/-- However a run ends, for jobs with an authority that can lose calls. -/
def Leads (loses : List Exchange → Call → Option Failure) (job : Job α)
    (post : α → Server × List Exchange → Prop) (c : Client)
    (line : Server × List Exchange) : Prop :=
  Job.Ends (Authority.lossy loses Server.answer) (fun _ => True) job
    (fun value _ => post value) c line

theorem leads_bind {job : Job α} {next : α → Job β} {mid : α → Server × List Exchange → Prop}
    {post : β → Server × List Exchange → Prop} (h : Leads loses job mid c line)
    (hnext : ∀ value c line, mid value line → Leads loses (next value) post c line) :
    Leads loses (job >>= next) post c line :=
  (Job.ends_bind fun _ _ _ => trivial).2 (h.mono fun value c line _ hmid => hnext value c line hmid)

theorem leads_client {next : Client → Job β} {post : β → Server × List Exchange → Prop}
    (h : Leads loses (next c) post c line) : Leads loses (Job.client >>= next) post c line :=
  Job.ends_bind_client.2 h

theorem leads_update {f : Client → Client} {next : Unit → Job β}
    {post : β → Server × List Exchange → Prop} (h : Leads loses (next ()) post (f c) line) :
    Leads loses (Job.update f >>= next) post c line :=
  Job.ends_bind_update.2 h

theorem leads_attempt {attempt : Attempt α} {next : α → Attempt β}
    (mid : Except Failure α → Server × List Exchange → Prop)
    {post : Except Failure β → Server × List Exchange → Prop}
    (h : Leads loses attempt.run mid c line)
    (hok : ∀ value c line, mid (.ok value) line → Leads loses (next value).run post c line)
    (herror : ∀ e line, mid (.error e) line → post (.error e) line) :
    Leads loses (attempt >>= next).run post c line := by
  refine (Job.ends_attempt fun _ _ _ => trivial).2 (Job.Ends.mono h ?_)
  intro answer c line _ hmid
  cases answer with
  | ok value => exact hok value c line hmid
  | error e => exact herror e line hmid

theorem leads_listing {write : Call} {a : write.Answer} {line' : Server × List Exchange}
    (hrecord : line'.2 = line.2 ++ [⟨write, .ok a⟩])
    (hperformed : line.1.registry.perform line.1.limits write = .ok (a, line'.1.registry)) :
    Leads loses (Attempt.call (.rowsOf id)).run (fun answer => Written write line answer.isOk) c
      line' := by
  refine Server.ends_call ?_ ?_
  · intro e line'' _ hrecord' _ hsame
    exact .lost a id e (by rw [hrecord', hrecord]) (by rw [hperformed, hsame])
  · intro rows line'' _ hrecord' _ hperform
    obtain ⟨-, hsame⟩ := Registry.rowsOf_eq_ok hperform
    exact .reloaded a id rows (by rw [hrecord', hrecord]) (by rw [hperformed, hsame])

theorem leads_map {attempt : Attempt α} {f : α → β} {post : Bool → Server × List Exchange → Prop}
    (h : Leads loses attempt.run (fun answer => post answer.isOk) c line) :
    Leads loses (f <$> attempt).run (fun answer => post answer.isOk) c line := by
  rw [map_eq_pure_bind]
  exact leads_attempt _ h (fun value c line hpost _ => hpost) fun e line hpost => hpost

theorem leads_write {write : Call} {settle : write.Answer → Attempt β}
    (hsettle : ∀ a c line', line'.2 = line.2 ++ [⟨write, .ok a⟩] →
      line.1.registry.perform line.1.limits write = .ok (a, line'.1.registry) →
      Leads loses (settle a).run (fun answer => Written write line answer.isOk) c line') :
    Leads loses (Attempt.call write >>= settle).run (fun answer => Written write line answer.isOk) c
      line := by
  refine (Job.ends_attempt fun _ _ _ => trivial).2 (Server.ends_call ?_ ?_)
  · intro e line' _ hrecord _ hsame
    exact .refused e hrecord hsame
  · intro a line' _ hrecord _ hperform
    exact hsettle a c line' hrecord hperform

theorem leads_settleMerged {write : Call} {a : write.Answer} {line' : Server × List Exchange}
    {merged : Bool} {otherwise : Settlement} (hrecord : line'.2 = line.2 ++ [⟨write, .ok a⟩])
    (hperformed : line.1.registry.perform line.1.limits write = .ok (a, line'.1.registry)) :
    Leads loses (settleMerged id merged otherwise).run
      (fun answer => Written write line answer.isOk) c line' := by
  cases merged with
  | true => exact leads_map (leads_listing hrecord hperformed)
  | false => exact fun _ => .confirmed a hrecord hperformed

theorem leads_optimistically {edit : Edit} {remote : Attempt Settlement}
    {post : Bool → Server × List Exchange → Prop}
    (h : ∀ c, Leads loses remote.run (fun answer => post answer.isOk) c line) :
    Leads loses (optimistically id edit remote).run (fun answer => post answer.isOk) c line := by
  simp only [optimistically]
  refine leads_client (leads_update (leads_bind (h _) ?_))
  intro answer c line hpost
  cases answer with
  | ok settlement => exact leads_update fun _ => hpost
  | error e => exact leads_update fun _ => hpost

theorem leads_checkMerged {write : Call} {spot : PortSide} {next : Bool → Attempt β}
    (h : ∀ merged c, Leads loses (next merged).run (fun answer => Written write line answer.isOk) c
      line) :
    Leads loses (checkMerged spot >>= next).run (fun answer => Written write line answer.isOk) c
      line := by
  refine (Job.ends_attempt fun _ _ _ => trivial).2 ?_
  simp only [checkMerged]
  rw [ExceptT.run_mk, Job.ends_bind_client, Job.ends_pure]
  intro _
  cases requirePort c.editor spot with
  | ok _ => exact h _ c
  | error e => exact .unsent

theorem leads_assign (spot : PortSide) (fiber : LabelledFiber) :
    Leads loses (assign id spot fiber).run
      (fun answer => Written (.place ⟨id, spot, fiber.fiber.ref⟩) line answer.isOk) c line :=
  leads_checkMerged fun _ _ => leads_optimistically fun _ =>
    leads_write fun _ _ _ hrecord hperformed => leads_settleMerged hrecord hperformed

theorem leads_vacate (spot : PortSide) :
    Leads loses (vacate id spot).run (fun answer => Written (.clear id spot) line answer.isOk) c
      line :=
  leads_checkMerged fun _ _ => leads_optimistically fun _ =>
    leads_write fun _ _ _ hrecord hperformed => leads_settleMerged hrecord hperformed

theorem leads_cableFibers (cable : Cable) :
    Leads loses (cableFibers cable).run (fun _ line' =>
      line'.1.registry = line.1.registry ∧ line'.1.limits = line.1.limits ∧
        (line'.2 = line.2 ∨ ∃ answer, line'.2 = line.2 ++ [⟨.fibersOf cable.id, answer⟩]))
          c line := by
  simp only [cableFibers]
  split
  · refine (Job.ends_attempt fun _ _ _ => trivial).2 (Server.ends_call ?_ ?_)
    · exact fun e line' _ hrecord hlimits hsame => ⟨hsame, hlimits, .inr ⟨_, hrecord⟩⟩
    · exact fun fibers line' _ hrecord hlimits hperform _ =>
        ⟨Registry.perform_read rfl hperform, hlimits, .inr ⟨_, hrecord⟩⟩
  · exact fun _ => ⟨rfl, rfl, .inl rfl⟩

end written

/-! ### Operations of one write -/

/-- What a reported failure means. Either nothing was done, or one write was performed, and nothing
else, and the listing asked for right after it was lost. -/
def FailsCleanly (s : Server) (line : Server × List Exchange) : Prop :=
  endsLost line.2 = false ∧ line.1.registry = s.registry ∨
    ∃ before write lost, line.2 = before ++ [write] ++ [lost] ∧ write.isAccepted = true ∧
      lost.isLostListing = true ∧
      ∃ a, s.registry.perform s.limits write.call = .ok (a, line.1.registry)

/-- What an operation of a single write reports: that the authority performed it, or a failure. -/
structure ReportsWrite (s : Server) (reported : Bool) (line : Server × List Exchange) : Prop where
  done : reported = true → ∃ (write : Call) (a : write.Answer), write.isWrite = true ∧
    s.registry.perform s.limits write = .ok (a, line.1.registry)
  failed : reported = false → FailsCleanly s line

structure Untouched (s : Server) (line : Server × List Exchange) : Prop where
  registry : line.1.registry = s.registry
  limits : line.1.limits = s.limits
  kept : endsLost line.2 = false

theorem Untouched.reportsWrite {s : Server} {line : Server × List Exchange}
    (hs : Untouched s line) : ReportsWrite s false line :=
  ⟨fun hreported => Bool.noConfusion hreported, fun _ => .inl ⟨hs.kept, hs.registry⟩⟩

theorem Written.failsCleanly {write : Call} {s : Server} {line line' : Server × List Exchange}
    (h : Written write line false line') (hwrite : write.isWrite = true) (hs : Untouched s line) :
    FailsCleanly s line' := by
  cases h with
  | unsent => exact .inl ⟨hs.kept, hs.registry⟩
  | refused e record same =>
    refine .inl ⟨?_, same.trans hs.registry⟩
    rw [record]
    refine endsLost_append _ ?_
    cases write with
    | portsOf | rowsOf | fibersOf => cases hwrite
    | _ => rfl
  | lost a id e record performed =>
    refine .inr ⟨_, _, _, record, ?_, rfl, a, ?_⟩
    · simp [Exchange.isAccepted, Exchange.succeeded, Exchange.failure?, hwrite]
    · rw [← hs.registry, ← hs.limits]
      exact performed

theorem Written.reportsWrite {write : Call} {ok : Bool} {s : Server}
    {line line' : Server × List Exchange} (h : Written write line ok line')
    (hwrite : write.isWrite = true) (hs : Untouched s line) : ReportsWrite s ok line' := by
  refine ⟨fun hreported => ?_, fun hreported => ?_⟩
  · rw [← hs.registry, ← hs.limits]
    cases h with
    | unsent | refused | lost => cases hreported
    | confirmed a record performed => exact ⟨write, a, hwrite, performed⟩
    | reloaded a id rows record performed => exact ⟨write, a, hwrite, performed⟩
  · subst hreported
    exact h.failsCleanly hwrite hs

section reports

variable {loses : List Exchange → Call → Option Failure} {line : Server × List Exchange}
  {s : Server} {c : Client} {id : StructureId} {α β : Type}

theorem leads_reported (write : Call) (hwrite : write.isWrite = true) (hs : Untouched s line)
    {attempt : Attempt α} {next : Except Failure α → Job Bool}
    (h : Leads loses attempt.run (fun answer => Written write line answer.isOk) c line)
    (hnext : ∀ answer c line', Leads loses (next answer)
      (fun value line'' => value = answer.isOk ∧ line'' = line') c line') :
    Leads loses (attempt.run >>= next) (ReportsWrite s) c line := by
  refine leads_bind h fun answer c line' hwritten => (hnext answer c line').mono ?_
  rintro value c' line'' - ⟨rfl, rfl⟩
  exact hwritten.reportsWrite hwrite hs

theorem leads_dropFiber (hs : Untouched s line) (spot : PortSide) (fiber : LabelledFiber) :
    Leads loses (dropFiber spot fiber) (ReportsWrite s) c line := by
  refine leads_client ?_
  cases c.editor.structureId with
  | none => exact fun _ => hs.reportsWrite
  | some id =>
    refine leads_reported _ rfl hs (leads_assign spot fiber) fun answer _ _ => ?_
    cases answer with
    | ok _ => exact fun _ => ⟨rfl, rfl⟩
    | error _ => exact fun _ => ⟨rfl, rfl⟩

theorem leads_clearPort (hs : Untouched s line) (spot : PortSide) :
    Leads loses (clearPort spot) (ReportsWrite s) c line := by
  refine leads_client ?_
  cases c.editor.structureId with
  | none => exact fun _ => hs.reportsWrite
  | some id =>
    refine leads_reported _ rfl hs (leads_vacate spot) fun answer _ _ => ?_
    cases answer with
    | ok _ => exact fun _ => ⟨rfl, rfl⟩
    | error _ => exact fun _ => ⟨rfl, rfl⟩

theorem leads_mergeSelected (hs : Untouched s line) :
    Leads loses mergeSelected (ReportsWrite s) c line := by
  refine leads_client ?_
  dsimp only
  split
  · exact fun _ => hs.reportsWrite
  next id side ports _ =>
    refine leads_reported (.merge id ports side) rfl hs
      (leads_write fun _ _ _ hrecord hperformed => leads_listing hrecord hperformed)
      fun answer _ _ => ?_
    cases answer with
    | ok _ => exact fun _ => ⟨rfl, rfl⟩
    | error _ => exact fun _ => ⟨rfl, rfl⟩

theorem leads_unmerge (hs : Untouched s line) (group : MergeGroupId)
    (ports : Option (List PortNumber)) :
    Leads loses (unmerge group ports) (ReportsWrite s) c line := by
  refine leads_client ?_
  dsimp only
  cases c.editor.structureId with
  | none => exact fun _ => hs.reportsWrite
  | some id =>
    dsimp only
    split
    · exact fun _ => hs.reportsWrite
    · refine leads_reported (.unmerge group _) rfl hs
        (leads_write fun _ _ _ hrecord hperformed => leads_listing hrecord hperformed)
        fun answer _ _ => ?_
      cases answer with
      | ok _ => exact fun _ => ⟨rfl, rfl⟩
      | error _ => exact fun _ => ⟨rfl, rfl⟩

theorem leads_fillGroup (hs : Untouched s line) (group : MergeGroupId) (ports : List PortNumber)
    (spot : PortSide) (fibers : List Fiber) (cableName : String) :
    Leads loses (fillGroup id group ports spot fibers cableName) (ReportsWrite s) c line := by
  have hupload : Leads loses (uploadToGroup id group spot (fibers.take ports.length) cableName).run
      (fun answer =>
        Written (.upload group spot.side ((fibers.take ports.length).map Fiber.ref)) line
        answer.isOk) c line := by
    simp only [uploadToGroup]
    split
    · exact fun _ => .unsent
    · refine leads_optimistically fun _ => leads_write fun _ _ _ hrecord hperformed => ?_
      exact leads_map (leads_listing hrecord hperformed)
  refine leads_reported _ rfl hs hupload fun answer _ _ => ?_
  cases answer with
  | ok _ => exact fun _ => ⟨rfl, rfl⟩
  | error _ => exact fun _ => ⟨rfl, rfl⟩

theorem leads_dropOnGroup (hs : Untouched s line) (group : MergeGroupId) (side : Side)
    (drop : Drop) : Leads loses (dropOnGroup group side drop) (ReportsWrite s) c line := by
  refine leads_client ?_
  dsimp only
  cases c.editor.structureId with
  | none => exact fun _ => hs.reportsWrite
  | some id =>
    dsimp only
    split
    · exact fun _ => hs.reportsWrite
    · cases drop with
      | fiber fiber => exact leads_dropFiber hs _ fiber
      | bundle bundle => exact leads_fillGroup hs _ _ _ _ _
      | cable cable =>
        refine leads_bind (leads_cableFibers cable) ?_
        rintro answer c line' ⟨hsame, hlimits, hrecord⟩
        have hs : Untouched s line' := by
          refine ⟨hsame.trans hs.registry, hlimits.trans hs.limits, ?_⟩
          rcases hrecord with hrecord | ⟨_, hrecord⟩
          · rw [hrecord, hs.kept]
          · rw [hrecord, endsLost_append _ rfl]
        cases answer with
        | ok fibers => exact leads_fillGroup hs _ _ _ _ _
        | error e => exact fun _ => hs.reportsWrite
      | mounted _ => exact fun _ => hs.reportsWrite
      | component _ => exact fun _ => hs.reportsWrite

end reports

/-! ### Fills -/

section fills

variable {loses : List Exchange → Call → Option Failure} {line line' : Server × List Exchange}
  {c : Client} {α β : Type}

def placements (exchanges : List Exchange) : Nat :=
  exchanges.countP Exchange.isPlacement

theorem placements_append (exchanges : List Exchange) (e : Exchange) :
    placements (exchanges ++ [e]) = placements exchanges + if e.isPlacement then 1 else 0 := by
  simp only [placements]
  rw [List.countP_append, List.countP_singleton]

structure Tallies (report : FillReport) (line : Server × List Exchange) : Prop where
  placed : placements line.2 = report.placed
  kept : endsLost line.2 = false

structure TalliesUpTo (failure : Option Failure) (report : FillReport)
    (line : Server × List Exchange) : Prop where
  placed : placements line.2 = report.placed + (if endsLost line.2 then 1 else 0)
  kept : failure = none → endsLost line.2 = false

theorem Tallies.upTo {report : FillReport} (h : Tallies report line) (failure : Option Failure) :
    TalliesUpTo failure report line := by
  refine ⟨?_, fun _ => h.kept⟩
  rw [h.placed, h.kept]
  rfl

theorem Tallies.read {report : FillReport} {e : Exchange} (h : Tallies report line)
    (hrecord : line'.2 = line.2 ++ [e]) (hother : e.isPlacement = false)
    (hkept : endsLost (line.2 ++ [e]) = false) : Tallies report line' := by
  refine ⟨?_, hrecord ▸ hkept⟩
  rw [hrecord, placements_append, hother, h.placed]
  rfl

theorem Written.placements {p : Placement} {ok : Bool} (h : Written (.place p) line ok line')
    (hkept : endsLost line.2 = false) :
    if ok then placements line'.2 = placements line.2 + 1 ∧ endsLost line'.2 = false
    else placements line'.2 = placements line.2 + (if endsLost line'.2 then 1 else 0) := by
  cases h with
  | unsent => simp [hkept]
  | refused e record same =>
    have hlost := endsLost_append line.2 (e := ⟨.place p, .error e⟩) rfl
    rw [record, hlost, placements_append]
    rfl
  | lost a id e record performed =>
    rw [record, endsLost_append_two, placements_append, placements_append]
    rfl
  | confirmed a record performed =>
    have hlost := endsLost_append line.2 (e := ⟨.place p, .ok a⟩) rfl
    rw [record, placements_append]
    exact ⟨rfl, hlost⟩
  | reloaded a id rows record performed =>
    have hlost := endsLost_append (line.2 ++ [⟨.place p, .ok a⟩]) (e := ⟨.rowsOf id, .ok rows⟩) rfl
    rw [record, placements_append, placements_append]
    exact ⟨rfl, hlost⟩

theorem leads_placeOne (target : FillTarget) (spot : PortSide) (fiber : LabelledFiber) :
    Leads loses (placeOne target spot fiber).run (fun answer =>
      Written (.place ⟨target.structureId, spot, fiber.fiber.ref⟩) line answer.isOk) c line := by
  simp only [placeOne]
  split
  · exact leads_assign spot fiber
  · exact leads_write fun a _ _ hrecord hperformed _ => .confirmed a hrecord hperformed

theorem leads_fillPorts (target : FillTarget) (side : Side) (ports : List PortNumber)
    (fibers : List LabelledFiber) (filled : List MergeGroupId) {pass : FillPass}
    (hnone : pass.failure = none) (h : Tallies pass.report line) :
    Leads loses (fillPorts target side ports fibers filled pass)
      (fun pass line' => TalliesUpTo pass.failure pass.report line') c line := by
  induction ports generalizing fibers filled pass c line with
  | nil => exact fun _ => h.upTo _
  | cons port ports ih =>
    cases fibers with
    | nil => exact fun _ => h.upTo _
    | cons fiber fibers =>
      simp only [fillPorts]
      split
      · exact ih (fiber :: fibers) filled hnone h
      · refine leads_bind (leads_placeOne target ⟨port, side⟩ fiber)
          fun answer c line' hwritten => ?_
        have hcount := hwritten.placements h.kept
        cases answer with
        | ok _ =>
          refine ih fibers _ ?_ ⟨?_, hcount.2⟩
          · exact hnone
          · rw [hcount.1, h.placed]
            rfl
        | error e =>
          refine fun _ => ⟨?_, fun hnone => by cases hnone⟩
          rw [← h.placed]
          exact hcount

theorem leads_remoteTarget {report : FillReport} (record : Structure) (side : Side)
    (h : Tallies report line) :
    Leads loses (remoteTarget record side).run (fun _ line' => Tallies report line') c line := by
  simp only [remoteTarget]
  split
  · exact fun _ => h
  next typeId _ =>
    refine (Job.ends_attempt fun _ _ _ => trivial).2 (Server.ends_call ?_ ?_)
    · intro e line' _ hrecord _ _
      exact h.read hrecord rfl (endsLost_append _ rfl)
    · intro ports line₁ _ hrecord _ _
      have h₁ := h.read hrecord rfl (endsLost_append _ rfl)
      refine (Job.ends_attempt fun _ _ _ => trivial).2 (Server.ends_call ?_ ?_)
      · intro e line' _ hrecord' _ _
        refine h₁.read hrecord' rfl ?_
        rw [hrecord, endsLost_append_two]
        rfl
      · intro rows line' _ hrecord' _ _ _
        exact h₁.read hrecord' rfl (endsLost_append _ rfl)

theorem leads_fillLater (side : Side) (later : List Structure) (fibers : List LabelledFiber)
    {report : FillReport} (h : Tallies report line) :
    Leads loses (fillLater side later fibers report)
      (fun result line' => TalliesUpTo result.1 result.2 line') c line := by
  induction later generalizing fibers report c line with
  | nil => exact fun _ => h.upTo _
  | cons record later ih =>
    simp only [fillLater]
    split
    · exact fun _ => h.upTo _
    · refine leads_bind (leads_remoteTarget record side h) fun answer c line' h => ?_
      cases answer with
      | error e => exact fun _ => h.upTo _
      | ok target =>
        dsimp only
        split
        · exact fun _ => h.upTo _
        · refine leads_bind (leads_fillPorts target side _ fibers [] rfl h) fun pass c line' h => ?_
          split
          next e hfailure =>
            exact fun _ => hfailure ▸ h
          next hfailure =>
            have hkept := h.kept hfailure
            refine ih _ ⟨?_, hkept⟩
            rw [h.placed, hkept]
            rfl

theorem leads_fillCable (first : FillTarget) (later : List Structure) (side : Side)
    (fibers : List LabelledFiber) {report : FillReport} (h : Tallies report line) :
    Leads loses (fillCable first later side fibers report)
      (fun result line' => TalliesUpTo result.1 result.2 line') c line := by
  refine leads_bind (leads_fillPorts first side _ fibers [] rfl h) fun pass c line' h => ?_
  split
  next e hfailure => exact fun _ => hfailure ▸ h
  next hfailure =>
    have hkept := h.kept hfailure
    refine leads_fillLater side later _ ⟨?_, hkept⟩
    rw [h.placed, hkept]
    rfl

/-- What a fill reports: so many fibers placed, up to one after a lost listing, and none when it
failed. -/
structure ReportsFill (outcome : FillOutcome) (line : Server × List Exchange) : Prop where
  placed : placements line.2 =
    (outcome.report?.elim 0 (·.placed)) + (if endsLost line.2 then 1 else 0)
  failed : ∀ e report, outcome = .failed e report → report.placed = 0

theorem leads_finishFill (kind : FillKind) {failure : Option Failure} {report : FillReport}
    (h : TalliesUpTo failure report line) :
    Leads loses (finishFill kind failure report) ReportsFill c line := by
  simp only [finishFill]
  cases failure with
  | some e =>
    dsimp only
    split
    next hzero =>
      refine fun _ => ⟨h.placed, fun e' report' heq => ?_⟩
      obtain ⟨-, rfl⟩ := FillOutcome.failed.inj heq
      exact hzero
    next => exact fun _ => ⟨h.placed, fun _ _ heq => by cases heq⟩
  | none =>
    dsimp only
    split
    · exact fun _ => ⟨h.placed, fun _ _ heq => by cases heq⟩
    · exact fun _ => ⟨h.placed, fun _ _ heq => by cases heq⟩

theorem leads_rejectFill (reason : String) (h : Tallies {} line) :
    Leads loses (rejectFill reason) ReportsFill c line :=
  fun _ => ⟨(h.upTo none).placed, fun _ _ heq => by cases heq⟩

theorem leads_exclusively {refused job : Job α} {post : α → Server × List Exchange → Prop}
    (hrefused : Leads loses refused post c line) (hjob : ∀ c, Leads loses job post c line) :
    Leads loses (exclusively refused job) post c line := by
  simp only [exclusively]
  refine leads_client ?_
  split
  · exact hrefused
  · refine leads_update (leads_bind (hjob _) fun value c line hpost => ?_)
    exact leads_update fun _ => hpost

theorem leads_dropBundle (start : PortSide) (bundle : Bundle) (h : Tallies {} line) :
    Leads loses (dropBundle start bundle) ReportsFill c line := by
  refine leads_exclusively (leads_rejectFill _ h) fun c => leads_client ?_
  split
  · exact leads_rejectFill _ h
  next target _ =>
    split
    · exact leads_rejectFill _ h
    · split
      · exact leads_rejectFill _ h
      · refine leads_bind (leads_fillPorts target _ _ _ [] rfl ⟨h.placed, h.kept⟩) ?_
        exact fun pass c line' hpass => leads_finishFill _ hpass

theorem leads_dropCable (start : PortSide) (cable : Cable) (records : List Structure)
    (h : Tallies {} line) : Leads loses (dropCable start cable records) ReportsFill c line := by
  refine leads_exclusively (leads_rejectFill _ h) fun c => leads_client ?_
  dsimp only
  split
  next found target _ _ =>
    split
    · exact leads_rejectFill _ h
    · refine leads_bind (leads_cableFibers cable) ?_
      rintro answer c line' ⟨-, -, hrecord⟩
      have h : Tallies {} line' := by
        rcases hrecord with hrecord | ⟨_, hrecord⟩
        · exact ⟨hrecord ▸ h.placed, hrecord ▸ h.kept⟩
        · exact h.read hrecord rfl (endsLost_append _ rfl)
      cases answer with
      | error e => exact leads_finishFill _ (h.upTo _)
      | ok fibers =>
        dsimp only
        split
        · exact leads_rejectFill _ h
        · refine leads_bind (leads_fillCable target _ _ _ ⟨h.placed, h.kept⟩) ?_
          exact fun result c line' hresult => leads_finishFill _ hresult
  · exact leads_rejectFill _ h

end fills

/-! ### All operations -/

/-- Operations of a single write: they report whether it was done. -/
def Operation.writesOnce : Operation → Bool
  | dropFiber _ _ | clearPort _ | mergeSelected | unmerge _ _ | dropOnGroup _ _ _ => true
  | _ => false

/-- A single write that is reported was done. One that is reported to have failed was not, unless it
was accepted and only the listing after it was lost. A fill reports as many fibers as the authority
has put on ports, or, when it ends with such a lost listing, one fewer. -/
theorem report_of_operation (loses : List Exchange → Call → Option Failure) (operation : Operation)
    (c : Client) (s : Server) :
    let (outcome, _, line) := operation.job.run (Authority.lossy loses Server.answer) c (s, [])
    (operation.writesOnce = true → ∀ reported, outcome = .flag reported →
        ReportsWrite s reported line) ∧
      ∀ fill, outcome = .fill fill → ReportsFill fill line := by
  have hs : Untouched s (s, []) := ⟨rfl, rfl, rfl⟩
  have hzero : Tallies {} (s, []) := ⟨rfl, rfl⟩
  cases operation with
  | dropFiber spot fiber =>
    rw [Operation.job, Job.run_map]
    refine ⟨fun _ _ heq => ?_, fun _ heq => by cases heq⟩
    exact Outcome.flag.inj heq ▸ leads_dropFiber hs spot fiber trivial
  | clearPort spot =>
    rw [Operation.job, Job.run_map]
    refine ⟨fun _ _ heq => ?_, fun _ heq => by cases heq⟩
    exact Outcome.flag.inj heq ▸ leads_clearPort hs spot trivial
  | mergeSelected =>
    rw [Operation.job, Job.run_map]
    refine ⟨fun _ _ heq => ?_, fun _ heq => by cases heq⟩
    exact Outcome.flag.inj heq ▸ leads_mergeSelected hs trivial
  | unmerge group ports =>
    rw [Operation.job, Job.run_map]
    refine ⟨fun _ _ heq => ?_, fun _ heq => by cases heq⟩
    exact Outcome.flag.inj heq ▸ leads_unmerge hs group ports trivial
  | dropOnGroup group side drop =>
    rw [Operation.job, Job.run_map]
    refine ⟨fun _ _ heq => ?_, fun _ heq => by cases heq⟩
    exact Outcome.flag.inj heq ▸ leads_dropOnGroup hs group side drop trivial
  | dropBundle start bundle =>
    rw [Operation.job, Job.run_map]
    refine ⟨fun hwrites => Bool.noConfusion hwrites, fun fill heq => ?_⟩
    exact Outcome.fill.inj heq ▸ leads_dropBundle start bundle hzero trivial
  | dropCable start cable records =>
    rw [Operation.job, Job.run_map]
    refine ⟨fun hwrites => Bool.noConfusion hwrites, fun fill heq => ?_⟩
    exact Outcome.fill.inj heq ▸ leads_dropCable start cable records hzero trivial
  | select | deselect | moveFiber | dropOnPort | toggleMergeMode | togglePort =>
    rw [Operation.job, Job.run_map]
    exact ⟨fun hwrites => Bool.noConfusion hwrites, fun _ heq => by cases heq⟩

def Session.choosing : Session :=
  (ofPlan {} (.numbered 0 0) {} Server.smallPlan (.numbered 0 0)).takeAll
    [{ operation := .select Server.smallTray }, { operation := .toggleMergeMode },
      { operation := .togglePort ⟨1, .a⟩ }, { operation := .togglePort ⟨2, .a⟩ }]

/-- The merge is reported to have failed and stays, and so does the one fiber of a fill that is
reported to have placed none. -/
theorem failure_reported_though_recorded :
    let unlisted (session : Session) := (session.server.setFailpoint "get_fiber_splices", [])
    let run (operation : Operation) (session : Session) :=
      operation.job.run (Authority.lossy (fun _ _ => none) Server.answer) session.client
        (unlisted session)
    let choosing := Session.choosing
    let grouped := choosing.take { operation := .mergeSelected }
    let merged := run .mergeSelected choosing
    let filled := run
      (.dropBundle ⟨1, .a⟩ ⟨⟨⟨3⟩⟩, "cable", 1, "blue", [Server.smallFiber 1]⟩) grouped
    (∀ session ∈ [choosing, grouped], session.client.editor.rows =
        session.server.registry.shown session.client.editor.structureId) ∧
      choosing.server.registry.groups.values = [] ∧ merged.1 = .flag false ∧
      merged.2.2.1.registry.groups.values.map (·.ports) = [[1, 2]] ∧
      filled.1 = .fill (.failed (.failpoint "get_fiber_splices") { total := 1 }) ∧
      placements filled.2.2.2 = 1 ∧
      filled.2.2.1.registry.rows.values.map (fun row => (row.fiber .a).isSome) = [true, true] := by
  decide +kernel

theorem report_of_lost_listing :
    let (outcome, _, line) := Operation.mergeSelected.job.run
      (Authority.lossy (fun _ call => if call.isWrite then none else some .noFibers) Server.answer)
      Session.choosing.client (Session.choosing.server, [])
    outcome = .flag false ∧ FailsCleanly Session.choosing.server line :=
  have hfailed : (Operation.mergeSelected.job.run
      (Authority.lossy (fun _ call => if call.isWrite then none else some .noFibers) Server.answer)
      Session.choosing.client (Session.choosing.server, [])).1 = .flag false := by decide +kernel
  have hreports := (report_of_operation _ .mergeSelected Session.choosing.client
    Session.choosing.server).1 rfl false hfailed
  ⟨hfailed, hreports.failed rfl⟩

end CrossConnect
