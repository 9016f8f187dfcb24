import CrossConnect.CommandLine.Run
import CrossConnect.Proofs.Client.Exclusion
import CrossConnect.Proofs.Registry.Relisted
import CrossConnect.Proofs.Registry.Uploads

/-!
What shows of the order in which an authority's tables list their entries. Its answers do not show
it. The listings of structures and cables do, but only between entries that have the slot or the
name in common; and the commands, which read those listings, only where they meet such entries.
-/
namespace CrossConnect

namespace Server

variable {s s' : Server} {requests : List Request}

/-! ### Answers -/

/-- The second authority differs from the first at most in the order of its tables. -/
structure Alike (s s' : Server) : Prop where
  registry : s.registry.Relisted s'.registry
  apart : s.registry.Apart
  limits : s'.limits = s.limits
  failpoints : s'.failpoints = s.failpoints
  log : s'.log = s.log

namespace Alike

theorem refl (hapart : s.registry.Apart) : s.Alike s :=
  ⟨.refl _, hapart, rfl, rfl, rfl⟩

theorem symm (h : s.Alike s') : s'.Alike s :=
  ⟨h.registry.symm, h.apart.relisted h.registry, h.limits.symm, h.failpoints.symm, h.log.symm⟩

theorem trans {s'' : Server} (h : s.Alike s') (h' : s'.Alike s'') : s.Alike s'' :=
  ⟨h.registry.trans h'.registry, h.apart, h'.limits.trans h.limits,
    h'.failpoints.trans h.failpoints, h'.log.trans h.log⟩

theorem relist {registry : Registry} (h : s.Alike s') (hrelisted : s'.registry.Relisted registry) :
    s.Alike { s' with registry } :=
  ⟨h.registry.trans hrelisted, h.apart, h.limits, h.failpoints, h.log⟩

theorem answer (h : s.Alike s') (c : Call) :
    (s'.answer c).1 = (s.answer c).1 ∧ (s.answer c).2.Alike (s'.answer c).2 := by
  simp only [Server.answer, failpointFor, h.failpoints, h.limits, h.log]
  cases c.failpointKeys.find? (· ∈ s.failpoints) with
  | some key => exact ⟨rfl, h.registry, h.apart, rfl, rfl, rfl⟩
  | none =>
    have hperform := h.registry.perform h.apart s.limits c
    cases hleft : s.registry.perform s.limits c with
    | error e =>
      rw [hleft] at hperform
      generalize s'.registry.perform s.limits c = answer at hperform
      cases hperform with
      | refused e => exact ⟨rfl, h.registry, h.apart, rfl, rfl, rfl⟩
    | ok left =>
      rw [hleft] at hperform
      generalize s'.registry.perform s.limits c = answer at hperform
      cases hperform with
      | accepted value relisted =>
        exact ⟨congrArg Except.ok value, relisted, h.apart.perform hleft, rfl, rfl, rfl⟩

theorem answer_eq (h : s.Alike s') (c : Call) : ∃ answer left left', s.answer c = (answer, left) ∧
    s'.answer c = (answer, left') ∧ left.Alike left' := by
  obtain ⟨hanswer, hleft⟩ := h.answer c
  exact ⟨(s.answer c).1, (s.answer c).2, (s'.answer c).2, rfl, Prod.ext hanswer rfl, hleft⟩

theorem serve (h : s.Alike s') (request : Request) :
    (s.serve request).Alike (s'.serve request) := by
  cases request with
  | call c => exact (h.answer c).2
  | setFailpoint key =>
    simp only [Server.serve, setFailpoint, h.failpoints]
    split
    · exact h
    · exact ⟨h.registry, h.apart, h.limits, rfl, h.log⟩
  | clearFailpoint key =>
    exact ⟨h.registry, h.apart, h.limits, congrArg (List.filter (· ≠ key)) h.failpoints, h.log⟩

theorem run {α : Type} (h : s.Alike s') (p : Progress α) :
    ∃ value client left left', p.run Server.answer s = (value, client, left) ∧
      p.run Server.answer s' = (value, client, left') ∧ left.Alike left' := by
  induction p generalizing s s' with
  | done client value => exact ⟨value, client, s, s', rfl, rfl, h⟩
  | waits client call resume ih =>
    obtain ⟨hanswer, hleft⟩ := h.answer call
    simp only [Progress.run, hanswer]
    exact ih _ client hleft

end Alike

/-- Serving requests, where any table may list its entries anew before each of them and at the
end. -/
inductive Serves : Server → List Request → Server → Prop
  | done {s registry} (relisted : s.registry.Relisted registry) : Serves s [] { s with registry }
  | request {s registry request requests s'} (relisted : s.registry.Relisted registry)
      (rest : Serves ({ s with registry }.serve request) requests s') :
      Serves s (request :: requests) s'

theorem Alike.serves {start : Server} (h : start.Alike s) (hserves : s.Serves requests s') :
    (start.serveAll requests).Alike s' := by
  induction hserves generalizing start with
  | done relisted => exact h.relist relisted
  | request relisted rest ih => exact ih ((h.relist relisted).serve _)

theorem Serves.alike {settings : ServerSettings} {plan : NodePlan} {ids : IdSource}
    (h : (ofPlan settings plan ids).Serves requests s)
    (h' : (ofPlan settings plan ids).Serves requests s') : s.Alike s' := by
  have hstart := Alike.refl (.of_empty (groups_ofPlan settings plan ids))
  exact (hstart.serves h).symm.trans (hstart.serves h')

end Server

/-! ### Spilling -/

namespace Client

theorem laterStructures_congr {settings : ClientSettings} {selected : Structure}
    {structures structures' : List Structure}
    (h : Listings Structure.slotStart structures structures')
    (hties : settings.spills = true → NoTies Structure.slotStart
      (structures.filter fun s => s.exposesPorts && decide (selected.slotStart < s.slotStart))) :
    laterStructures settings selected structures =
      laterStructures settings selected structures' := by
  simp only [laterStructures]
  split
  next hspills =>
    rw [(h.filter _).eq_of_noTies ((hties hspills).of_subset fun s hs => ?_)]
    obtain ⟨hmem, hkept⟩ := List.mem_filter.1 hs
    simp only [Bool.and_eq_true] at hkept
    exact List.mem_filter.2 ⟨hmem, by simp only [hkept, Bool.and_self]⟩
  next => rfl

theorem dropCable_congr {start : PortSide} {cable : Cable} {structures structures' : List Structure}
    {c : Client} (h : ∀ selected, c.editor.selected = some selected →
      laterStructures c.settings selected.record structures =
        laterStructures c.settings selected.record structures') :
    dropCable start cable structures c = dropCable start cable structures' c := by
  cases htaken : c.slot.taken with
  | true => rw [dropCable, dropCable, exclusively_taken htaken, exclusively_taken htaken]
  | false =>
    rw [dropCable, dropCable, exclusively_free htaken, exclusively_free htaken]
    refine congrArg (Progress.bind · _) ?_
    rw [Job.client_bind, Job.client_bind]
    dsimp only [occupied]
    cases hselected : c.editor.selected with
    | none => rfl
    | some selected =>
      cases localTarget c.editor start with
      | none => rfl
      | some target => simp only [h selected hselected]

theorem run_fetch {σ : Type} (authority : Authority σ) (record : Structure) (c : Client) (s : σ) :
    ∃ fetched left, (fetch record).run.run authority c s = (fetched, c, left) := by
  rw [fetch]
  cases record.componentType with
  | none => exact ⟨_, _, rfl⟩
  | some componentType =>
    dsimp only
    rw [ExceptT.run_bind, Job.run_bind, Attempt.call, ExceptT.run_mk, Job.run_call]
    obtain ⟨ports, left⟩ := authority s (.portsOf componentType)
    cases ports with
    | error e => exact ⟨_, _, rfl⟩
    | ok ports =>
      dsimp only
      rw [ExceptT.run_bind, Job.run_bind, Attempt.call, ExceptT.run_mk, Job.run_call]
      obtain ⟨rows, left⟩ := authority left (.rowsOf record.id)
      cases rows with
      | error e => exact ⟨_, _, rfl⟩
      | ok rows => exact ⟨_, _, rfl⟩

theorem loaded_of_select {σ : Type} {authority : Authority σ} {record : Structure} {c left : Client}
    {s s' : σ} (h : (select record).run authority c s = (true, left, s')) :
    left.settings = c.settings ∧ ∃ selected, left.editor.selected = some selected ∧
      selected.record = record := by
  cases htaken : c.slot.taken with
  | true =>
    rw [select, Job.run, exclusively_taken htaken] at h
    cases (Prod.mk.inj h).1
  | false =>
    rw [select, Job.run, exclusively_free htaken, Progress.run_bind] at h
    obtain ⟨fetched, last, hfetch⟩ := run_fetch authority record c.occupied s
    rw [← Job.run, Job.run_bind, hfetch] at h
    cases fetched with
    | error e => cases (Prod.mk.inj h).1
    | ok fetched =>
      obtain rfl := (Prod.mk.inj (Prod.mk.inj h).2).1
      exact ⟨rfl, _, rfl, rfl⟩

end Client

namespace CommandLine

open Server

/-! ### Inspection -/

theorem overview_alike {s s' : Server} (h : s.Alike s') (record : Structure) :
    (overview s' record).1 = (overview s record).1 ∧
      (overview s record).2.Alike (overview s' record).2 := by
  simp only [overview]
  cases record.componentType with
  | none => exact ⟨rfl, h⟩
  | some componentType =>
    obtain ⟨ports, left, left', hports, hports', hleft⟩ := h.answer_eq (.portsOf componentType)
    simp only [hports, hports']
    cases ports with
    | error e => exact ⟨rfl, hleft⟩
    | ok ports =>
      obtain ⟨rows, last, last', hrows, hrows', hlast⟩ := hleft.answer_eq (.rowsOf record.id)
      simp only [hrows, hrows']
      cases rows with
      | error e => exact ⟨rfl, hlast⟩
      | ok rows => exact ⟨rfl, hlast⟩

theorem printOverviews_alike {s s' : Server} (h : s.Alike s') (records : List Structure) :
    printOverviews s' records = printOverviews s records := by
  induction records generalizing s s' with
  | nil => rfl
  | cons record rest ih =>
    obtain ⟨hview, hleft⟩ := overview_alike h record
    simp only [printOverviews, hview, ih hleft]

theorem inspectOn_alike {s s' : Server} (h : s.Alike s') {arguments : InspectArguments}
    (hties : NoTies Structure.slotStart (arguments.shown s)) :
    inspectOn arguments s = inspectOn arguments s' := by
  have hshown : arguments.shown s = arguments.shown s' :=
    (h.registry.structuresBySlot.filter _).eq_of_noTies hties
  simp only [inspectOn, ← hshown, printOverviews_alike h]

/-! ### Fills -/

/-- Of the structures and cables that a fill chooses from, no two are alike in what they are sorted
by: the structures of the starting name, the cables of the given name, and, where a cable may spill,
the structures with ports behind the starting one. -/
structure FillArguments.Decisive (arguments : FillArguments) (settings : ClientSettings)
    (s : Server) : Prop where
  start : NoTies Structure.slotStart (s.registry.structuresBySlot.filter (·.name = arguments.start))
  cable : NoTies Cable.name (s.registry.cablesByName.filter (·.name = arguments.cable))
  later : arguments.bundle = none → settings.spills = true →
    ∀ start ∈ s.registry.structuresBySlot, start.name = arguments.start →
      NoTies Structure.slotStart (s.registry.structuresBySlot.filter fun t =>
        t.exposesPorts && decide (start.slotStart < t.slotStart))

theorem FillArguments.Decisive.laterStructures_eq {arguments : FillArguments}
    {settings : ClientSettings} {s s' : Server} (hdecisive : arguments.Decisive settings s)
    (h : s.Alike s') {start : Structure}
    (hstart : s.registry.structuresBySlot.find? (·.name = arguments.start) = some start)
    (hbundle : arguments.bundle = none) :
    Client.laterStructures settings start s.registry.structuresBySlot =
      Client.laterStructures settings start s'.registry.structuresBySlot := by
  have hnamed : start.name = arguments.start := by
    simpa only [decide_eq_true_eq] using List.find?_some hstart
  exact Client.laterStructures_congr h.registry.structuresBySlot fun hspills =>
    hdecisive.later hbundle hspills start (List.mem_of_find?_eq_some hstart) hnamed

def filled : FillOutcome × Client × Server →
    FillOutcome × Client × List Call × Table (StructureId × PortNumber) Splice
  | (outcome, client, server) => (outcome, client, server.log, server.registry.rows)

theorem filled_run {s s' : Server} (h : s.Alike s') (p : Progress FillOutcome) :
    filled (p.run Server.answer s) = filled (p.run Server.answer s') := by
  obtain ⟨outcome, client, left, left', hrun, hrun', hleft⟩ := h.run p
  simp only [hrun, hrun', filled, hleft.log, hleft.registry.rows]

theorem fillOn_alike {s s' : Server} (h : s.Alike s') {arguments : FillArguments}
    {settings : ClientSettings} (hdecisive : arguments.Decisive settings s) (clientIds : IdSource) :
    (fillOn arguments settings clientIds s).map filled =
      (fillOn arguments settings clientIds s').map filled := by
  simp only [fillOn, ← h.registry.structuresBySlot.find?_eq hdecisive.start,
    ← h.registry.cablesByName.find?_eq hdecisive.cable]
  cases hstart : s.registry.structuresBySlot.find? (·.name = arguments.start) with
  | none => rfl
  | some start =>
    cases s.registry.cablesByName.find? (·.name = arguments.cable) with
    | none => rfl
    | some cable =>
      obtain ⟨loaded, client, left, left', hselect, hselect', hleft⟩ :=
        h.run (Client.select start (.ofSettings settings clientIds))
      simp only [Job.run, hselect, hselect']
      cases loaded with
      | false => rfl
      | true =>
        obtain ⟨hsettings, selected, hselected, hrecord⟩ := Client.loaded_of_select hselect
        simp only [Bool.not_true, Bool.false_eq_true, if_false, fillJob]
        cases hbundle : arguments.bundle with
        | some number =>
          dsimp only
          cases cable.bundles.find? (·.number = number) with
          | none => rfl
          | some bundle => exact congrArg Except.ok (filled_run hleft _)
        | none =>
          have hlater : ∀ selected', client.editor.selected = some selected' →
              Client.laterStructures client.settings selected'.record s.registry.structuresBySlot =
                Client.laterStructures client.settings selected'.record
                  s'.registry.structuresBySlot := by
            intro selected' hselected'
            obtain rfl := Option.some.inj (hselected.symm.trans hselected')
            rw [hsettings, hrecord]
            exact hdecisive.laterStructures_eq h hstart hbundle
          have hjob : Client.dropCable ⟨arguments.port, arguments.side⟩ cable
                s.registry.structuresBySlot client =
              Client.dropCable ⟨arguments.port, arguments.side⟩ cable
                s'.registry.structuresBySlot client :=
            Client.dropCable_congr hlater
          exact congrArg Except.ok ((filled_run hleft _).trans (by rw [hjob]))

/-! ### Results -/

/-- Whatever is asked of an authority, and in whatever order its tables list their entries
meanwhile, it answers the same and finds the same merge groups. It lists the same structures by slot
and the same cables by name; only those with a slot or a name in common can change places, and a
command can depend on the order through them alone. -/
theorem shown_up_to_ties (settings : ServerSettings) (plan : NodePlan) (ids : IdSource)
    (requests : List Request) {s s' : Server} (h : (ofPlan settings plan ids).Serves requests s)
    (h' : (ofPlan settings plan ids).Serves requests s') :
    s.registry.groupAt = s'.registry.groupAt ∧
      (∀ call, (s.answer call).1 = (s'.answer call).1) ∧
      Listings Structure.slotStart s.registry.structuresBySlot s'.registry.structuresBySlot ∧
      (NoTies Structure.slotStart s.registry.structuresBySlot →
        s.registry.structuresBySlot = s'.registry.structuresBySlot) ∧
      Listings Cable.name s.registry.cablesByName s'.registry.cablesByName ∧
      (NoTies Cable.name s.registry.cablesByName →
        s.registry.cablesByName = s'.registry.cablesByName) ∧
      (∀ arguments : InspectArguments, NoTies Structure.slotStart (arguments.shown s) →
        inspectOn arguments s = inspectOn arguments s') ∧
      ∀ (arguments : FillArguments) (clientSettings : ClientSettings) (clientIds : IdSource),
        arguments.Decisive clientSettings s →
          (fillOn arguments clientSettings clientIds s).map filled =
            (fillOn arguments clientSettings clientIds s').map filled := by
  have halike := h.alike h'
  have hstructures := halike.registry.structuresBySlot
  have hcables := halike.registry.cablesByName
  exact ⟨(halike.registry.groupAt halike.apart).symm, fun call => (halike.answer call).1.symm,
    hstructures, hstructures.eq_of_noTies, hcables, hcables.eq_of_noTies,
    fun _ hties => inspectOn_alike halike hties,
    fun _ _ clientIds hdecisive => fillOn_alike halike hdecisive clientIds⟩

def twinPlan : NodePlan where
  name := "twins"
  componentTypes := [{ id := ⟨⟨1⟩⟩, name := "tray", inward := 3, outward := 3 }]
  structures :=
    [{ smallTray with name := "left" }, { smallTray with id := ⟨⟨3⟩⟩, name := "right" },
      { smallTray with id := ⟨⟨4⟩⟩, name := "behind", slotStart := 2, slotEnd := 2 }]
  cables :=
    [{ id := ⟨⟨5⟩⟩, name := "K", bundles := [{ number := 1, fiberCount := 3 }] },
      { id := ⟨⟨6⟩⟩, name := "K", bundles := [{ number := 1, fiberCount := 2 }] },
      { id := ⟨⟨7⟩⟩, name := "L", bundles := [{ number := 1, fiberCount := 4 }] }]

def twins : Server :=
  ofPlan {} twinPlan (.numbered 0 0)

def twinsReversed : Server :=
  { twins with registry := twins.registry.reversed }

theorem shown_without_ties :
    let merged := twins.serve (.call (.merge smallTray.id [2, 3] .a))
    let merged' := twinsReversed.serve (.call (.merge smallTray.id [2, 3] .a))
    let arguments : FillArguments := { start := "left", cable := "L" }
    merged.registry.groups.values.map (·.ports) = [[2, 3]] ∧
      merged.registry.groupAt = merged'.registry.groupAt ∧
      inspectOn { only := some "right" } merged = inspectOn { only := some "right" } merged' ∧
      (fillOn arguments {} (.numbered 1 0) merged).map filled =
        (fillOn arguments {} (.numbered 1 0) merged').map filled := by
  intro merged merged' arguments
  have h : twins.Serves [.call (.merge smallTray.id [2, 3] .a)] merged :=
    .request (.refl _) (.done (.refl _))
  have h' : twins.Serves [.call (.merge smallTray.id [2, 3] .a)] merged' :=
    .request twins.registry.relisted_reversed (.done (.refl _))
  obtain ⟨hgroups, -, -, -, -, -, hinspect, hfill⟩ := shown_up_to_ties _ _ _ _ h h'
  refine ⟨by decide +kernel, hgroups, hinspect _ (by decide +kernel), hfill _ _ _ ⟨?_, ?_, ?_⟩⟩
  · decide +kernel
  · decide +kernel
  · exact fun _ _ => by decide +kernel

theorem ties_shown :
    twins.Serves [] twins ∧ twins.Serves [] twinsReversed ∧
      twins.registry.structuresBySlot ≠ twinsReversed.registry.structuresBySlot ∧
      twins.registry.cablesByName ≠ twinsReversed.registry.cablesByName ∧
      ((inspectOn {} twins).run.run { files := .ofHome [] }).2.output ≠
        ((inspectOn {} twinsReversed).run.run { files := .ofHome [] }).2.output ∧
      ((fillOn { start := "left", cable := "K" } {} (.numbered 1 0) twins).map (·.1)).toOption ≠
        ((fillOn { start := "left", cable := "K" } {} (.numbered 1 0) twinsReversed).map
          (·.1)).toOption := by
  refine ⟨.done (.refl _), .done twins.registry.relisted_reversed,
    ?_, ?_, ?_, ?_⟩ <;> decide +kernel

end CommandLine

end CrossConnect
