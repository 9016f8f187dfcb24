import CrossConnect.Proofs.Bundles
import CrossConnect.Proofs.Client.Confirmed
import CrossConnect.Proofs.Client.FillOrder

/-!
The order in which a dropped cable is placed, whatever the authority answers and whatever other jobs
do to the client meanwhile: its bundles one after another, each by absolute number. A cable that
comes without fibers is placed in the same order once they are fetched.
-/
namespace CrossConnect

open Client Job

/-! ### Fibers in the order of their placements -/

/-- The fibers for which a placement was asked, accepted or not. -/
def sentFibers (exchanges : List Exchange) : List FiberRef :=
  (placementsOf exchanges).map (·.fiber)

theorem sentFibers_append (exchanges more : List Exchange) :
    sentFibers (exchanges ++ more) = sentFibers exchanges ++ sentFibers more := by
  simp only [sentFibers, placementsOf, List.filterMap_append, List.map_append]

/-- Some exchanges of a fill ask for the first of its fibers to be placed, in their order; unless a
call fails, for as many as are counted. -/
structure Sends (fibers : List LabelledFiber) (failure : Option Failure) (count : Nat)
    (exchanges : List Exchange) : Prop where
  order : sentFibers exchanges <+: fibers.map (·.fiber.ref)
  counted : failure = none → (sentFibers exchanges).length = count

def FillReport.Grows (before after : FillReport) (count : Nat) : Prop :=
  after.placed = before.placed + count ∧ after.total = before.total

section sends

variable {fibers : List LabelledFiber} {failure : Option Failure} {count count' : Nat}
  {exchanges more : List Exchange}

theorem Sends.nothing (hnone : sentFibers exchanges = []) (fibers : List LabelledFiber)
    (failure : Option Failure) : Sends fibers failure 0 exchanges :=
  ⟨hnone ▸ List.nil_prefix, fun _ => by rw [hnone]; rfl⟩

theorem Sends.failed (h : Sends fibers failure count exchanges) (e : Failure) (count' : Nat) :
    Sends fibers (some e) count' exchanges :=
  ⟨h.order, nofun⟩

theorem Sends.append (h : Sends fibers none count exchanges)
    (h' : Sends (fibers.drop count) failure count' more) :
    Sends fibers failure (count + count') (exchanges ++ more) := by
  have hcount := h.counted rfl
  refine ⟨?_, fun hnone => ?_⟩
  · have hfirst : sentFibers exchanges = (fibers.map (·.fiber.ref)).take count :=
      hcount ▸ List.prefix_iff_eq_take.1 h.order
    obtain ⟨rest, hrest⟩ := h'.order
    refine ⟨rest, ?_⟩
    rw [sentFibers_append, List.append_assoc, hrest, hfirst, List.map_drop, List.take_append_drop]
  · rw [sentFibers_append, List.length_append, hcount, h'.counted hnone]

theorem Tried.sends {p : Placement} {fiber : LabelledFiber} (h : Tried p failure exchanges)
    (hfiber : p.fiber = fiber.fiber.ref) (fibers : List LabelledFiber) :
    Sends (fiber :: fibers) failure 1 exchanges := by
  have hone : [p.fiber] <+: (fiber :: fibers).map (·.fiber.ref) := by
    rw [hfiber]
    exact List.prefix_append [fiber.fiber.ref] _
  cases h with
  | unsent e => exact ⟨List.nil_prefix, nofun⟩
  | refused e | lost row e => exact ⟨hone, nofun⟩
  | confirmed row | reloaded row rows => exact ⟨hone, fun _ => rfl⟩

theorem FillReport.Grows.refl (report : FillReport) : report.Grows report 0 :=
  ⟨rfl, rfl⟩

theorem FillReport.Grows.trans {before mid after : FillReport} (h : before.Grows mid count)
    (h' : mid.Grows after count') : before.Grows after (count + count') :=
  ⟨by rw [h'.1, h.1, Nat.add_assoc], h'.2.trans h.2⟩

theorem FillReport.grows_add (report : FillReport) (id : StructureId) :
    report.Grows (report.add id) 1 :=
  ⟨rfl, rfl⟩

end sends

/-! ### Fills -/

section fills

variable {c : Client} {target : FillTarget} {side : Side}

theorem sends_fillPorts (ports : List PortNumber) (fibers : List LabelledFiber)
    (filled : List MergeGroupId) (pass : FillPass) :
    (fillPorts target side ports fibers filled pass).Yields (fun pass' exchanges =>
      ∃ count, Sends fibers pass'.failure count exchanges ∧ pass'.placed = pass.placed + count ∧
        pass.report.Grows pass'.report count) c := by
  induction ports generalizing fibers filled pass c with
  | nil => exact yields_pure ⟨0, .nothing rfl fibers _, rfl, .refl _⟩
  | cons port ports ih =>
    cases fibers with
    | nil => exact yields_pure ⟨0, .nothing rfl [] _, rfl, .refl _⟩
    | cons fiber fibers =>
      simp only [fillPorts]
      split
      · exact ih (fiber :: fibers) filled pass
      · refine (yields_placeOne target ⟨port, side⟩ fiber).bind fun answer exchanges c htried => ?_
        have hsends := htried.sends rfl fibers
        cases answer with
        | error e =>
          refine yields_pure ⟨0, ?_, rfl, .refl _⟩
          rw [List.append_nil]
          exact hsends.failed e 0
        | ok _ =>
          refine (ih fibers _ (pass.add target.structureId)).mono fun pass' more h => ?_
          obtain ⟨count, hrest, hplaced, hgrows⟩ := h
          refine ⟨1 + count, hsends.append hrest, ?_, (FillReport.grows_add _ _).trans hgrows⟩
          rw [hplaced, ← Nat.add_assoc]
          rfl

theorem sends_remoteTarget (record : Structure) :
    (remoteTarget record side).run.Yields (fun _ exchanges => sentFibers exchanges = []) c := by
  rw [remoteTarget]
  split
  · exact yields_pure rfl
  next typeId _ =>
    refine (yields_call (.portsOf typeId)).attempt ?_ ?_
    · rintro ports _ c rfl
      refine (yields_call (.rowsOf record.id)).attempt ?_ ?_
      · rintro rows _ c rfl
        exact yields_pure rfl
      · rintro e _ rfl
        rfl
    · rintro e _ rfl
      rfl

theorem sends_fillCable {later : List Structure} {fibers : List LabelledFiber} {report : FillReport}
    (hlater : ∀ fibers report c, (fillLater side later fibers report).Yields
        (fun result exchanges =>
      ∃ count, Sends fibers result.1 count exchanges ∧ report.Grows result.2 count) c) :
    (fillCable target later side fibers report).Yields (fun result exchanges =>
      ∃ count, Sends fibers result.1 count exchanges ∧ report.Grows result.2 count) c := by
  refine (sends_fillPorts target.ports fibers [] { report }).bind fun pass exchanges c h => ?_
  obtain ⟨count, hsends, hplaced, hgrows⟩ := h
  split
  next e hfailure =>
    refine yields_pure ⟨count, ?_, hgrows⟩
    rw [List.append_nil, ← hfailure]
    exact hsends
  next hnone =>
    rw [hnone] at hsends
    rw [Nat.zero_add] at hplaced
    refine (hlater _ pass.report c).mono fun result more h => ?_
    obtain ⟨count', hrest, hgrows'⟩ := h
    exact ⟨count + count', hsends.append (hplaced ▸ hrest), hgrows.trans hgrows'⟩

theorem sends_fillLater {later : List Structure} (fibers : List LabelledFiber)
    (report : FillReport) :
    (fillLater side later fibers report).Yields (fun result exchanges =>
      ∃ count, Sends fibers result.1 count exchanges ∧ report.Grows result.2 count) c := by
  induction later generalizing fibers report c with
  | nil => exact yields_pure ⟨0, .nothing rfl fibers _, .refl _⟩
  | cons record later ih =>
    simp only [fillLater]
    split
    · exact yields_pure ⟨0, .nothing rfl fibers _, .refl _⟩
    · refine (sends_remoteTarget record).bind fun answer exchanges c hnone => ?_
      cases answer with
      | error e =>
        refine yields_pure ⟨0, ?_, .refl _⟩
        rw [List.append_nil]
        exact .nothing hnone fibers _
      | ok target =>
        dsimp only
        split
        · refine yields_pure ⟨0, ?_, .refl _⟩
          rw [List.append_nil]
          exact .nothing hnone fibers _
        · have hrest : (fillCable target later side fibers report).Yields (fun result exchanges =>
              ∃ count, Sends fibers result.1 count exchanges ∧ report.Grows result.2 count) c :=
            sends_fillCable fun fibers report c => ih fibers report
          refine hrest.mono fun result more h => ?_
          obtain ⟨count, hsends, hgrows⟩ := h
          have hnothing : Sends fibers none 0 exchanges := .nothing hnone fibers none
          exact ⟨count, Nat.zero_add count ▸ hnothing.append hsends, hgrows⟩

theorem Fetched.sends_nothing {cable : Cable} {answer : Except Failure (List Fiber)}
    {exchanges : List Exchange} (h : Fetched cable answer exchanges) :
    sentFibers exchanges = [] := by
  cases h <;> rfl

end fills

/-! ### Cables -/

/-- A fill asks for the first of these fibers to be placed, in their order, and for all of them when
it reports that it is through. -/
structure FillOutcome.Places (fibers : List Fiber) (exchanges : List Exchange)
    (outcome : FillOutcome) : Prop where
  order : sentFibers exchanges <+: fibers.map (·.ref)
  full : ∀ report, outcome = .connected report → sentFibers exchanges = fibers.map (·.ref)

/-- The fibers of a cable: its own, or those that were fetched for it. -/
inductive Cable.Holds (cable : Cable) (exchanges : List Exchange) : List Fiber → Prop
  | own (some : cable.fibers ≠ []) : Holds cable exchanges cable.fibers
  | fetched (none : cable.fibers = []) {fibers : List Fiber}
    (heard : ⟨.fibersOf cable.id, .ok fibers⟩ ∈ exchanges) : Holds cable exchanges fibers

section cables

variable {c : Client} {fibers : List Fiber} {exchanges more : List Exchange} {outcome : FillOutcome}
  {report : FillReport} {failure : Option Failure} {count : Nat}

theorem FillOutcome.places_nothing (hnone : sentFibers exchanges = [])
    (hfailed : ∀ report, outcome ≠ .connected report) (fibers : List Fiber) :
    outcome.Places fibers exchanges :=
  ⟨hnone ▸ List.nil_prefix, fun report heq => absurd heq (hfailed report)⟩

theorem Closes.places {cableName : String} (hcloses : Closes report failure outcome)
    (h : Sends (fibers.map (⟨·, cableName⟩)) failure count exchanges)
    (hgrows : FillReport.Grows { total := fibers.length } report count) :
    outcome.Places fibers exchanges := by
  have horder : sentFibers exchanges <+: fibers.map (·.ref) := by
    have horder := h.order
    rwa [List.map_map] at horder
  refine ⟨horder, fun report' heq => ?_⟩
  cases hcloses with
  | full all =>
    refine horder.eq_of_length ?_
    rw [h.counted rfl, List.length_map]
    have hplaced : report.placed = 0 + count := hgrows.1
    have htotal : report.total = fibers.length := hgrows.2
    omega
  | failed | stopped | short => cases heq

theorem Fetched.holds {cable : Cable} (h : Fetched cable (.ok fibers) exchanges)
    (more : List Exchange) :
    ∃ held, cable.Holds (exchanges ++ more) held ∧ fibers = Fiber.sortByBundle held := by
  cases h with
  | carried hsome => exact ⟨_, .own (by simpa using hsome), rfl⟩
  | fetched hnone held => exact ⟨held, .fetched (by simpa using hnone) (by simp), rfl⟩

theorem sends_dropCable (start : PortSide) (cable : Cable) (structures : List Structure) :
    (dropCable start cable structures).Yields (fun outcome exchanges =>
      (∀ fibers, outcome.Places fibers exchanges) ∨ ∃ held, cable.Holds exchanges held ∧
        outcome.Places (Fiber.sortByBundle held) exchanges) c := by
  have hrejected : ∀ reason c, (rejectFill reason).Yields (fun outcome exchanges =>
      (∀ fibers, outcome.Places fibers exchanges) ∨ ∃ held, cable.Holds exchanges held ∧
        outcome.Places (Fiber.sortByBundle held) exchanges) c := fun reason c => by
    refine (yields_rejectFill reason).mono fun outcome exchanges ⟨houtcome, hnil⟩ => .inl ?_
    subst houtcome hnil
    exact FillOutcome.places_nothing rfl nofun
  refine yields_exclusively (hrejected _ _) fun slot => yields_client ?_
  dsimp only
  split
  · split
    · exact hrejected _ _
    · refine (yields_cableFibers cable).bind fun answer exchanges c hfetched => ?_
      have hnone := hfetched.sends_nothing
      cases answer with
      | error e =>
        refine (yields_finishFill _ _ _).mono fun outcome more ⟨hcloses, hnil⟩ => .inl ?_
        rw [hnil, List.append_nil]
        refine FillOutcome.places_nothing hnone fun report heq => ?_
        subst heq
        cases hcloses
      | ok fibers =>
        dsimp only
        split
        · refine (yields_rejectFill _).mono fun outcome more ⟨houtcome, hnil⟩ => .inl ?_
          rw [houtcome, hnil, List.append_nil]
          exact FillOutcome.places_nothing hnone nofun
        · refine Job.Yields.bind (sends_fillCable fun fibers report c =>
            sends_fillLater fibers report) fun result more c ⟨count, hsends, hgrows⟩ => ?_
          refine (yields_finishFill _ _ _).mono fun outcome last ⟨hcloses, hnil⟩ => .inr ?_
          rw [hnil, List.append_nil]
          obtain ⟨held, hheld, rfl⟩ := hfetched.holds more
          have hnothing := Sends.nothing hnone
            ((Fiber.sortByBundle held).map (⟨·, cable.name⟩ : Fiber → LabelledFiber)) none
          rw [List.length_map] at hgrows
          exact ⟨held, hheld, hcloses.places (Nat.zero_add count ▸ hnothing.append hsends) hgrows⟩
  · exact hrejected _ _

end cables

/-- The bundles of a cable part its fibers by their numbers, which go up; one after another they
have the fibers stably sorted by bundle and absolute number. In this order a drop of the cable
places them, also when it comes without its fibers and the registry lists them. -/
theorem bundles_in_drop_order (cable : Cable) :
    (cable.bundles.map (·.number)).Pairwise (· < ·) ∧
      (∀ b ∈ cable.bundles, b.fibers ≠ [] ∧
        b.fibers.Perm (cable.fibers.filter (·.bundle = b.number))) ∧
      (cable.bundles.flatMap (·.fibers) = cable.fibers.mergeSort fun f g =>
        decide (f.bundle < g.bundle ∨ f.bundle = g.bundle ∧ f.absolute ≤ g.absolute)) ∧
      ∀ start structures c,
        (cable.fibers ≠ [] → (dropCable start cable structures).Yields (fun outcome exchanges =>
          outcome.Places (cable.bundles.flatMap (·.fibers)) exchanges) c) ∧
        ∀ r : Registry, r.cables.find? cable.id = some cable →
          (dropCable start { cable with fibers := [] } structures).Yields (fun outcome exchanges =>
            (∀ fibers, ⟨.fibersOf cable.id, .ok fibers⟩ ∈ exchanges →
              r.fibersOf cable.id = .ok fibers) →
            outcome.Places (cable.bundles.flatMap (·.fibers)) exchanges) c := by
  rw [cable.flatMap_bundles, cable.numbers_bundles]
  refine ⟨pairwise_ascending _, fun b hb =>
    ⟨Cable.fibers_ne_nil_of_mem_bundles hb, Cable.perm_of_mem_bundles hb⟩,
    Freight.mergeSort_bundle cable.fibers, fun start structures c =>
      ⟨fun hsome => ?_, fun r hr => ?_⟩⟩
  · refine (sends_dropCable start cable structures).mono fun outcome exchanges h => ?_
    rcases h with hall | ⟨_, hheld, hplaces⟩
    · exact hall _
    · cases hheld with
      | own => exact hplaces
      | fetched hnone => exact absurd hnone hsome
  · refine (sends_dropCable start _ structures).mono fun outcome exchanges h hheard => ?_
    rcases h with hall | ⟨held, hheld, hplaces⟩
    · exact hall _
    · cases hheld with
      | own hsome => exact absurd rfl hsome
      | fetched _ hmem =>
        have hfetched : held = Fiber.sortByAbsolute cable.fibers := by
          have hlisted := hheard held hmem
          simp only [Registry.fibersOf, Registry.cable?, hr] at hlisted
          exact (Except.ok.inj hlisted).symm
        rw [hfetched, Fiber.sortByBundle_sortByAbsolute] at hplaces
        exact hplaces

namespace Session

def muddled : Cable :=
  let fiber (id : Nat) (absolute bundle : UInt32) : Fiber :=
    { id := ⟨⟨BitVec.ofNat 128 id⟩⟩, cableId := ⟨⟨3⟩⟩, absolute, inBundle := absolute, bundle,
      color := colorOf absolute }
  ⟨⟨⟨3⟩⟩, "cable", [fiber 1 4 2, fiber 2 1 1, fiber 3 3 2, fiber 4 2 1, fiber 5 1 1]⟩

def muddledServer : Server :=
  { spilling.server with registry := spilling.server.registry.addCable muddled }

theorem muddled_in_drop_order :
    let run (cable : Cable) := (dropCable ⟨1, .a⟩ cable [secondTray, Server.smallTray]).run
      (Authority.recorded Server.answer) spilling.client (muddledServer, [])
    muddled.bundles.map (fun b => b.fibers.map (·.id)) =
        [[⟨⟨2⟩⟩, ⟨⟨5⟩⟩, ⟨⟨4⟩⟩], [⟨⟨3⟩⟩, ⟨⟨1⟩⟩]] ∧
      (sentFibers (run muddled).2.2.2).map (·.fiberId) = [⟨⟨2⟩⟩, ⟨⟨5⟩⟩, ⟨⟨4⟩⟩, ⟨⟨3⟩⟩, ⟨⟨1⟩⟩] ∧
      sentFibers (run { muddled with fibers := [] }).2.2.2 = sentFibers (run muddled).2.2.2 ∧
      (run muddled).1.Places (muddled.bundles.flatMap (·.fibers)) (run muddled).2.2.2 ∧
      (run { muddled with fibers := [] }).1.Places (muddled.bundles.flatMap (·.fibers))
        (run { muddled with fibers := [] }).2.2.2 := by
  intro run
  obtain ⟨-, -, -, hdrop⟩ := bundles_in_drop_order muddled
  obtain ⟨hcarried, hfetched⟩ := hdrop ⟨1, .a⟩ [secondTray, Server.smallTray] spilling.client
  have hfind : muddledServer.registry.cables.find? muddled.id = some muddled := by decide +kernel
  have hlisted : ∀ e ∈ (run { muddled with fibers := [] }).2.2.2, e.call = .fibersOf muddled.id →
      e.fetched = Fiber.sortByAbsolute muddled.fibers := by decide +kernel
  refine ⟨by decide +kernel, by decide +kernel, by decide +kernel,
    (hcarried (by decide)).recorded rfl,
    (hfetched muddledServer.registry hfind).recorded rfl fun fibers hmem => ?_⟩
  have hfibers : fibers = Fiber.sortByAbsolute muddled.fibers := hlisted _ hmem rfl
  simp only [Registry.fibersOf, Registry.cable?, hfind, hfibers]
  rfl

end Session
end CrossConnect
