import CrossConnect.Proofs.Client.Unhindered

/-!
Drops onto a merge group. A bundle or a cable goes there in a single upload of as many of its fibers
as the group has ports, a fiber by a placement on the lowest port; either way all ports of the group
end up with one fiber, and nothing else changes.
-/
namespace CrossConnect

theorem exists_mapM {α β : Type} {f : α → Except Failure β} {as : List α}
    (h : ∀ a ∈ as, ∃ b, f a = .ok b) : ∃ bs, as.mapM f = .ok bs := by
  induction as with
  | nil => exact ⟨[], rfl⟩
  | cons a as ih =>
    obtain ⟨b, hb⟩ := h a List.mem_cons_self
    obtain ⟨bs, hbs⟩ := ih fun a ha => h a (List.mem_cons_of_mem _ ha)
    exact ⟨b :: bs, by rw [List.mapM_cons, hb, hbs]; rfl⟩

namespace Freight

def drop : Freight → Drop
  | bundle b => .bundle b
  | cable k _ => .cable k

def asked : Freight → List Call
  | bundle _ => []
  | cable k _ => if k.fibers.isEmpty then [.fibersOf k.id] else []

def cableName : Freight → String
  | bundle b => b.cableName
  | cable k _ => k.name

def share (freight : Freight) (r : Registry) (group : MergeGroup) : List FiberRef :=
  ((freight.fibers r).take group.ports.length).map Fiber.ref

end Freight

namespace Client

variable {s : Server} {c : Client} {r : Registry} {group : MergeGroup} {key : MergeGroupId}

/-- A drop onto a merge group ended well, with a single write. All ports of the group show the
fiber, nothing else that is recorded on a port side has changed, and the editor shows what the
authority lists. -/
structure Spreads (s : Server) (group : MergeGroup) (write : Call) (shown : Termination)
    (recorded : MergeGroupId → Prop) (out : Bool × Client × Server × List Exchange) : Prop where
  accepted : out.1 = true
  writes : (out.2.2.2.filter (·.call.isWrite)).map (·.call) = [write]
  registry : s.registry.Rewrites out.2.2.1.registry group.structureId group.side (· ∈ group.ports)
    (fun _ e => { e with fiber := some shown }) recorded
  rows : out.2.1.editor.rows = out.2.2.1.registry.listing group.structureId

theorem Wrote.spreads {s' : Server} {write : Call} {shown : Termination}
    {recorded : MergeGroupId → Prop} {exchanges : List Exchange} {left : Client}
    {line : Server × List Exchange} (h : Wrote s' exchanges group.structureId write r left line)
    (hreads : exchanges.filter (·.call.isWrite) = [])
    (hrewrites : s.registry.Rewrites r group.structureId group.side (· ∈ group.ports)
      (fun _ e => { e with fiber := some shown }) recorded) :
    Spreads s group write shown recorded (true, left, line) := by
  refine ⟨rfl, ?_, ?_, ?_⟩
  · rw [h.writes, hreads]
    rfl
  · rw [h.registry]
    exact hrewrites
  · rw [h.registry]
    exact h.mirrors.rows

/-! ### What is dropped -/

theorem run_cableFibers (k : Cable) (structures : List Structure) (c : Client)
    (hsome : (Freight.cable k structures).fibers s.registry ≠ [])
    (hasked : ∀ call ∈ (Freight.cable k structures).asked, s.failpointFor call = none) :
    ∃ s' reads, s'.registry = s.registry ∧ s.SameTerms s' ∧ reads.filter (·.call.isWrite) = [] ∧
      (cableFibers k).run.run (Authority.recorded Server.answer) c (s, []) =
        (.ok ((Freight.cable k structures).fibers s.registry), c, s', reads) := by
  simp only [Freight.fibers, Freight.asked, ← Freight.mergeSort_bundle] at hsome hasked ⊢
  cases hempty : k.fibers.isEmpty with
  | false =>
    refine ⟨s, [], rfl, ⟨rfl, rfl⟩, rfl, ?_⟩
    simp only [cableFibers, hempty]
    rfl
  | true =>
    simp only [hempty, if_true, List.mem_singleton, forall_eq] at hsome hasked ⊢
    cases hread : s.registry.fibersOf k.id with
    | error e =>
      rw [hread] at hsome
      exact absurd rfl hsome
    | ok fibers =>
      have hperform : s.registry.perform s.limits (.fibersOf k.id) = .ok (fibers, s.registry) :=
        map_eq_ok.2 ⟨fibers, hread, rfl⟩
      obtain ⟨s', hregistry, hterms, hrun⟩ := run_call_ok [] hasked hperform c fun fibers =>
        (pure (Fiber.sortByBundle fibers) : Attempt (List Fiber))
      simp only [cableFibers, hempty, if_true]
      exact ⟨s', _, hregistry, hterms, rfl, hrun⟩

section group

variable (hs : s.Sound) (hmirrors : c.editor.Mirrors s.registry group.structureId)
  (hkey : s.registry.groups.find? key = some group)

include hs hmirrors hkey

theorem groupPorts_mirrored : ∃ first,
    Occupancy.groupPorts c.editor.rows key group.side = group.ports ∧
    group.ports.head? = some first ∧ first ∈ group.ports ∧ ∀ port ∈ group.ports, first ≤ port := by
  have hports := (hs.wellFormed.showsGroups hmirrors.rows).ports hkey rfl group.side
  rw [if_pos rfl] at hports
  have hrun := hs.wellFormed.group_run hkey
  have hsize := (hs.wellFormed.group_size hkey).1
  cases hlist : group.ports with
  | nil => simp [hlist] at hsize
  | cons first rest =>
    have hlt := hrun.pairwise_lt
    rw [hlist] at hlt hports
    refine ⟨first, hports, rfl, List.mem_cons_self, List.forall_mem_cons.2 ⟨UInt32.le_refl _, ?_⟩⟩
    exact fun port hport => UInt32.le_of_lt ((List.pairwise_cons.1 hlt).1 port hport)

theorem run_dropOnGroup_fiber (fiber : LabelledFiber) : ∃ first ∈ group.ports,
    (∀ port ∈ group.ports, first ≤ port) ∧
      (dropOnGroup key group.side (.fiber fiber)).run (Authority.recorded Server.answer) c (s, []) =
        (dropFiber ⟨first, group.side⟩ fiber).run (Authority.recorded Server.answer) c (s, []) := by
  obtain ⟨first, hports, hfirst, hmem, hlowest⟩ := groupPorts_mirrored hs hmirrors hkey
  refine ⟨first, hmem, hlowest, ?_⟩
  rw [dropOnGroup, Job.run_bind, Job.run_client]
  dsimp only
  rw [hmirrors.structureId]
  dsimp only
  rw [hports, hfirst]

theorem run_dropOnGroup_freight (freight : Freight) (hsome : freight.fibers s.registry ≠ [])
    (hasked : ∀ call ∈ freight.asked, s.failpointFor call = none) : ∃ first s' reads,
      s'.registry = s.registry ∧ s.SameTerms s' ∧ reads.filter (·.call.isWrite) = [] ∧
      (dropOnGroup key group.side freight.drop).run (Authority.recorded Server.answer) c (s, []) =
        (fillGroup group.structureId key group.ports ⟨first, group.side⟩ (freight.fibers s.registry)
          freight.cableName).run (Authority.recorded Server.answer) c (s', reads) := by
  obtain ⟨first, hports, hfirst, -, -⟩ := groupPorts_mirrored hs hmirrors hkey
  refine ⟨first, ?_⟩
  rw [dropOnGroup, Job.run_bind, Job.run_client]
  dsimp only
  rw [hmirrors.structureId]
  dsimp only
  rw [hports, hfirst]
  cases freight with
  | bundle b =>
    refine ⟨s, [], rfl, ⟨rfl, rfl⟩, rfl, ?_⟩
    rw [Freight.fibers, ← Freight.mergeSort_absolute]
    rfl
  | cable k structures =>
    obtain ⟨s', reads, hregistry, hterms, hreads, hrun⟩ :=
      run_cableFibers k structures c hsome hasked
    refine ⟨s', reads, hregistry, hterms, hreads, ?_⟩
    simp only [Freight.drop]
    rw [Job.run_bind, hrun]
    rfl

end group

/-! ### Uploads -/

theorem run_fillGroup (hmirrors : c.editor.Mirrors s.registry group.structureId) (spot : PortSide)
    {fibers : List Fiber} (cableName : String) (exchanges : List Exchange)
    (hsome : fibers.take group.ports.length ≠ [])
    (hfree : s.failpointFor (.upload key spot.side
      ((fibers.take group.ports.length).map Fiber.ref)) = none)
    (hlist : s.failpointFor (.rowsOf group.structureId) = none)
    (hupload : s.registry.upload s.limits key spot.side
      ((fibers.take group.ports.length).map Fiber.ref) = .ok r) (hrows : r.RowsAt) :
    ∃ left line, (fillGroup group.structureId key group.ports spot fibers cableName).run
        (Authority.recorded Server.answer) c (s, exchanges) = (true, left, line) ∧
      Wrote s exchanges group.structureId
        (.upload key spot.side ((fibers.take group.ports.length).map Fiber.ref)) r left line := by
  simp only [fillGroup]
  generalize fibers.take group.ports.length = taken at hsome hfree hupload
  cases taken with
  | nil => exact absurd rfl hsome
  | cons first rest =>
    have hscope : (Edit.place group.structureId spot (.ofFiber first cableName)).scope =
      some group.structureId := rfl
    have hperform : s.registry.perform s.limits
        (.upload key spot.side ((first :: rest).map Fiber.ref)) = .ok ((), r) :=
      map_eq_ok.2 ⟨r, hupload, rfl⟩
    obtain ⟨left, line, hrun, hwrote⟩ := wrote_listed exchanges hmirrors hscope rfl hperform hfree
      hlist hrows
    have hrun : (uploadToGroup group.structureId key spot (first :: rest) cableName).run.run
      (Authority.recorded Server.answer) c (s, exchanges) = (.ok (), left, line) := hrun
    rw [Job.run_bind, hrun]
    exact ⟨_, _, rfl, hwrote.notify _⟩

section group

variable (hs : s.Sound) (hmirrors : c.editor.Mirrors s.registry group.structureId)
  (hkey : s.registry.groups.find? key = some group)
  (hlist : s.failpointFor (.rowsOf group.structureId) = none)

include hs hmirrors hkey hlist

theorem spreads_freight (freight : Freight) (hsome : freight.fibers s.registry ≠ [])
    (hknown : ∀ fiber ∈ freight.fibers s.registry, ∃ shown,
      s.registry.terminate fiber.ref = .ok shown)
    (hsize : group.ports.length ≤ s.limits.uploadSize)
    (hasked : ∀ call ∈ freight.asked, s.failpointFor call = none)
    (hfree : s.failpointFor (.upload key group.side (freight.share s.registry group)) = none) :
    let out := (dropOnGroup key group.side freight.drop).run (Authority.recorded Server.answer) c
      (s, [])
    ∃ first rest,
      (freight.share s.registry group).mapM s.registry.terminate = .ok (first :: rest) ∧
        out.2.2.1.registry.groups.find? key = some { group with fibers := first :: rest } ∧
        Spreads s group (.upload key group.side (freight.share s.registry group)) first (· = key)
          out := by
  have htaken : (freight.fibers s.registry).take group.ports.length ≠ [] := by
    have htwo := (hs.wellFormed.group_size hkey).1
    rw [ne_eq, List.take_eq_nil_iff, not_or]
    exact ⟨by omega, hsome⟩
  have hlength : (freight.share s.registry group).length ≤ group.ports.length := by
    simp only [Freight.share, List.length_map, List.length_take]
    omega
  have hshare : ∀ ref ∈ freight.share s.registry group, ∃ shown,
      s.registry.terminate ref = .ok shown := by
    intro ref href
    obtain ⟨fiber, hfiber, rfl⟩ := List.mem_map.1 href
    exact hknown fiber (List.mem_of_mem_take hfiber)
  obtain ⟨shown, hshown⟩ := exists_mapM hshare
  obtain ⟨r, hupload⟩ := Registry.exists_upload hkey (by simpa [Freight.share] using htaken) hlength
    (hlength.trans hsize) hshown
  obtain ⟨first, s', reads, hregistry, hterms, hreads, hrun⟩ :=
    run_dropOnGroup_freight hs hmirrors hkey freight hsome hasked
  obtain ⟨left, line, hfilled, hwrote⟩ := run_fillGroup (hregistry.symm ▸ hmirrors)
    ⟨first, group.side⟩ freight.cableName reads htaken ((hterms.failpointFor _).trans hfree)
    ((hterms.failpointFor _).trans hlist) (by rw [hregistry, hterms.limits]; exact hupload)
    (Registry.WellFormed.upload hs.wellFormed hupload).rowsAt
  obtain ⟨found, shownFirst, rest, hfound, -, hmapped, hrewrites, hrecorded⟩ :=
    hs.wellFormed.law_upload hupload
  obtain rfl := Option.some.inj (hkey.symm.trans hfound)
  rw [hrun, hfilled]
  exact ⟨shownFirst, rest, hmapped, hwrote.registry ▸ hrecorded, hwrote.spreads hreads hrewrites⟩

theorem spreads_fiber (fiber : LabelledFiber) {shown : Termination}
    (hfiber : s.registry.terminate fiber.fiber.ref = .ok shown) :
    ∃ lowest ∈ group.ports, (∀ port ∈ group.ports, lowest ≤ port) ∧
      let placement : Placement :=
        ⟨group.structureId, ⟨lowest, group.side⟩, fiber.fiber.ref⟩
      (s.failpointFor (.place placement) = none → Spreads s group (.place placement) shown
        (fun _ => False) ((dropOnGroup key group.side (.fiber fiber)).run
          (Authority.recorded Server.answer) c (s, []))) := by
  obtain ⟨lowest, hmem, hlowest, hrun⟩ := run_dropOnGroup_fiber hs hmirrors hkey fiber
  refine ⟨lowest, hmem, hlowest, fun hfree => ?_⟩
  have hport := hs.wellFormed.group_ports hkey lowest hmem
  obtain ⟨⟨row, r⟩, hplace⟩ := Registry.exists_place
    (p := ⟨group.structureId, ⟨lowest, group.side⟩, fiber.fiber.ref⟩) hport hfiber
  obtain ⟨left, line, hdropped, hwrote⟩ :=
    (SingleStep.drop ⟨lowest, group.side⟩ fiber).run_unhindered [] hs hplace hmirrors hport hfree
      hlist
  obtain ⟨fiber', hfiber', hrewrites⟩ := hs.wellFormed.law_place hplace
  obtain rfl := Except.ok.inj (hfiber.symm.trans hfiber')
  have hcovers : group.Covers group.structureId ⟨lowest, group.side⟩ := ⟨rfl, rfl, hmem⟩
  simp only [SingleStep.job] at hdropped
  rw [hrun, hdropped]
  have hshares : s.registry.Shares group.structureId ⟨lowest, group.side⟩ = (· ∈ group.ports) :=
    funext fun port => propext (hs.wellFormed.shares_of_covers hkey hcovers)
  exact hwrote.spreads rfl (hshares ▸ hrewrites)

end group

end Client

namespace Server

/-- A bundle or cable of fibers that the authority knows, dropped onto a merge group that is not
larger than an upload may be, takes one upload: of the fibers in order, as many as the group has
ports, which are then on the group's record, the first of them on all of its ports. A fiber takes a
placement on the lowest port. Nothing else changes. The editor mirrors the authority, no failpoint
is in the way, and no identifier is drawn twice. -/
theorem spreads_of_drop {s : Server} (h : s.Reachable) (hids : s.registry.ids.Distinct) {c : Client}
    {key : MergeGroupId} {group : MergeGroup}
    (hmirrors : c.editor.Mirrors s.registry group.structureId)
    (hkey : s.registry.groups.find? key = some group)
    (hlist : s.failpointFor (.rowsOf group.structureId) = none) :
    (∀ freight : Freight, freight.fibers s.registry ≠ [] →
      (∀ fiber ∈ freight.fibers s.registry, ∃ shown,
        s.registry.terminate fiber.ref = .ok shown) →
      group.ports.length ≤ s.limits.uploadSize →
      (∀ call ∈ freight.asked, s.failpointFor call = none) →
      s.failpointFor (.upload key group.side (freight.share s.registry group)) = none →
      let out := (Client.dropOnGroup key group.side freight.drop).run (Authority.recorded answer) c
        (s, [])
      ∃ first rest,
        (freight.share s.registry group).mapM s.registry.terminate = .ok (first :: rest) ∧
          out.2.2.1.registry.groups.find? key = some { group with fibers := first :: rest } ∧
          Client.Spreads s group (.upload key group.side (freight.share s.registry group)) first
            (· = key) out) ∧
    ∀ (fiber : LabelledFiber) (shown : Termination),
      s.registry.terminate fiber.fiber.ref = .ok shown →
      ∃ lowest ∈ group.ports, (∀ port ∈ group.ports, lowest ≤ port) ∧
        let placement : Placement :=
          ⟨group.structureId, ⟨lowest, group.side⟩, fiber.fiber.ref⟩
        (s.failpointFor (.place placement) = none → Client.Spreads s group (.place placement) shown
          (fun _ => False) ((Client.dropOnGroup key group.side (.fiber fiber)).run
            (Authority.recorded answer) c (s, []))) := by
  have hs := h.sound hids
  exact ⟨Client.spreads_freight hs hmirrors hkey hlist,
    fun fiber _ => Client.spreads_fiber hs hmirrors hkey hlist fiber⟩

theorem spreads_of_small_drop :
    let s := (ofPlan {} smallPlan (.numbered 0 0)).serveAll [.call (.merge smallTray.id [2, 1] .a)]
    let freight := Freight.bundle
      { cableId := ⟨⟨3⟩⟩, cableName := "cable", number := 1, color := "blue"
        fibers := [smallFiber 3, smallFiber 2, smallFiber 1] }
    let run drop := (Client.dropOnGroup ⟨⟨3⟩⟩ .a drop).run (Authority.recorded answer) s.smallClient
      (s, [])
    let shown absolute := Termination.ofFiber (smallFiber absolute) "cable"
    ∃ group, s.registry.groups.find? ⟨⟨3⟩⟩ = some group ∧ group.ports = [1, 2] ∧
      (run freight.drop).2.2.1.registry.groups.find? ⟨⟨3⟩⟩ =
        some { group with fibers := [shown 1, shown 2] } ∧
      Client.Spreads s group (.upload ⟨⟨3⟩⟩ .a [(smallFiber 1).ref, (smallFiber 2).ref]) (shown 1)
        (· = ⟨⟨3⟩⟩) (run freight.drop) ∧
      Client.Spreads s group (.place ⟨smallTray.id, ⟨1, .a⟩, (smallFiber 3).ref⟩) (shown 3)
        (fun _ => False) (run (.fiber ⟨smallFiber 3, "cable"⟩)) := by
  intro s freight run shown
  have hids : s.registry.ids.Distinct := by decide +kernel
  have hreachable : s.Reachable := ⟨_, _, _, _, rfl⟩
  have hstructure : s.registry.structures.find? smallTray.id = some smallTray := by decide +kernel
  have hkey : s.registry.groups.find? ⟨⟨3⟩⟩ =
      some { id := ⟨⟨3⟩⟩, structureId := smallTray.id, side := .a, ports := [1, 2]
             fibers := [] } := by
    decide +kernel
  have hlimit : 2 ≤ s.limits.uploadSize := by decide +kernel
  have hfirst : s.registry.terminate (smallFiber 1).ref = .ok (shown 1) := by decide +kernel
  have hsecond : s.registry.terminate (smallFiber 2).ref = .ok (shown 2) := by decide +kernel
  have hthird : s.registry.terminate (smallFiber 3).ref = .ok (shown 3) := by decide +kernel
  have hfree : s.failpoints = [] := by decide +kernel
  have hfibers : freight.fibers s.registry = [smallFiber 1, smallFiber 2, smallFiber 3] :=
    (Freight.mergeSort_absolute _).symm.trans (by decide +kernel)
  clear_value s
  obtain ⟨hfreight, hfiber⟩ := spreads_of_drop hreachable hids (mirrors_smallClient hstructure) hkey
    (failpointFor_eq_none hfree _)
  have hknown : ∀ fiber ∈ freight.fibers s.registry, ∃ shown,
      s.registry.terminate fiber.ref = .ok shown := by
    simp [hfibers, hfirst, hsecond, hthird]
  obtain ⟨first, rest, hmapped, hrecorded, hspreads⟩ :=
    hfreight freight (by simp [hfibers]) hknown hlimit (fun _ _ => failpointFor_eq_none hfree _)
      (failpointFor_eq_none hfree _)
  simp only [Freight.share, hfibers] at hmapped hspreads
  have hshown : [(smallFiber 1).ref, (smallFiber 2).ref].mapM s.registry.terminate =
      .ok [shown 1, shown 2] := by
    rw [List.mapM_cons, List.mapM_cons, hfirst, hsecond]
    rfl
  obtain ⟨rfl, rfl⟩ := List.cons.inj (Except.ok.inj (hshown.symm.trans hmapped))
  obtain ⟨lowest, hmem, hlowest, hplaced⟩ := hfiber ⟨smallFiber 3, "cable"⟩ (shown 3) hthird
  have hone : lowest = 1 := by
    have hle := hlowest 1 (by simp)
    rcases List.mem_pair.1 hmem with rfl | rfl
    · rfl
    · exact absurd hle (by decide)
  subst hone
  exact ⟨_, hkey, rfl, hrecorded, hspreads, hplaced (failpointFor_eq_none hfree _)⟩

end Server
end CrossConnect
