import CrossConnect.Proofs.Registry.Transition

/-!
The list of fibers that a merge group has from its last upload, and the fiber that its ports show.
Clearing the ports forgets the list and so does dissolving the group, but a placement on one of the
ports leaves it as it is: from then on the ports show the fiber placed, whatever is first in the
list.
-/
namespace CrossConnect

namespace Registry

variable {r r' : Registry} {limits : Limits} {key : MergeGroupId} {group : MergeGroup}

def ShowsOn (r : Registry) (group : MergeGroup) (fiber : Option Termination) : Prop :=
  ∀ port ∈ group.ports, (r.endpoint group.structureId ⟨port, group.side⟩).fiber = fiber

theorem ShowsOn.carries {fiber : Termination} (h : r.ShowsOn group (some fiber)) {port : PortNumber}
    (hport : port ∈ group.ports) :
    r.Carries group.structureId ⟨port, group.side⟩ fiber.fiberId := by
  simp [Carries, h port hport]

theorem WellFormed.showsOn_unique (h : r.WellFormed limits) (hkey : r.groups.find? key = some group)
    {fiber fiber' : Option Termination} (hshows : r.ShowsOn group fiber)
    (hshows' : r.ShowsOn group fiber') : fiber = fiber' := by
  obtain ⟨⟨port, _⟩, -, -, hport⟩ := h.exists_covers hkey
  exact (hshows port hport).symm.trans (hshows' port hport)

/-- What an accepted call does to a group that is recorded afterwards. -/
inductive GroupChange (r r' : Registry) (key : MergeGroupId) (group : MergeGroup) : Call → Prop
  | kept {call : Call} (recorded : r.groups.find? key = some group)
      (shows : ∀ fiber, r.ShowsOn group fiber → r'.ShowsOn group fiber) :
      GroupChange r r' key group call
  | emptied {call : Call} (empty : group.fibers = []) : GroupChange r r' key group call
  | uploaded {call : Call} {first : Termination} {rest : List Termination}
      (fibers : group.fibers = first :: rest) (shows : r'.ShowsOn group (some first)) :
      GroupChange r r' key group call
  | placed {p : Placement} {shown : Termination} (recorded : r.groups.find? key = some group)
      (covers : group.Covers p.structureId p.spot) (fiber : r.terminate p.fiber = .ok shown)
      (shows : r'.ShowsOn group (some shown)) : GroupChange r r' key group (.place p)

theorem Rewrites.showsOn_kept {id : StructureId} {side : Side} {touched : PortNumber → Prop}
    {change : PortNumber → Endpoint → Endpoint} {recorded : MergeGroupId → Prop}
    (h : Rewrites r r' id side touched change recorded)
    (hapart : ∀ port ∈ group.ports, group.structureId = id → group.side = side → ¬touched port)
    {fiber : Option Termination} (hshows : r.ShowsOn group fiber) : r'.ShowsOn group fiber := by
  intro port hport
  rw [h.endpoint_kept]
  · exact hshows port hport
  · exact fun ⟨hid, hside, htouched⟩ => hapart port hport hid hside htouched

theorem WellFormed.not_shares (h : r.WellFormed limits) (hkey : r.groups.find? key = some group)
    {id : StructureId} {spot : PortSide} (hcovers : ¬group.Covers id spot) :
    ∀ port ∈ group.ports, group.structureId = id → group.side = spot.side →
      ¬r.Shares id spot port := by
  rintro port hport rfl hside (rfl | ⟨key', group', hkey', hcovers', hport'⟩)
  · exact hcovers ⟨rfl, hside, hport⟩
  · have hhere : group.Covers group.structureId ⟨port, spot.side⟩ := ⟨rfl, hside, hport⟩
    have hthere : group'.Covers group.structureId ⟨port, spot.side⟩ :=
      ⟨hcovers'.1, hcovers'.2.1, hport'⟩
    rw [(h.key_unique hkey hkey' hhere hthere).2] at hcovers'
    exact hcovers hcovers'

theorem WellFormed.groupChange {limits' : Limits} (h : r.WellFormed limits)
    (h' : r'.WellFormed limits') {call : Call}
    (hlaw : call.Law r r') (hkey : r'.groups.find? key = some group) :
    GroupChange r r' key group call := by
  cases call with
  | portsOf | rowsOf | fibersOf =>
    obtain rfl : r' = r := hlaw
    exact .kept hkey fun _ hshows => hshows
  | place p =>
    obtain ⟨shown, hshown, hrewrites⟩ := hlaw
    have hold : r.groups.find? key = some group := (hrewrites.group_kept key id) ▸ hkey
    by_cases hcovers : group.Covers p.structureId p.spot
    · refine .placed hold hcovers hshown fun port hport => ?_
      have htouched := hrewrites.endpoint_touched port (.inr ⟨key, group, hold, hcovers, hport⟩)
      rw [hcovers.1, hcovers.2.1, htouched]
    · exact .kept hold fun _ => hrewrites.showsOn_kept (h.not_shares hold hcovers)
  | clear id spot =>
    obtain ⟨hrewrites, hforgotten⟩ := hlaw
    by_cases hcovered : ∃ old, r.groups.find? key = some old ∧ old.Covers id spot
    · obtain ⟨old, hold, hcovers⟩ := hcovered
      rw [hforgotten key old hold hcovers, Option.some.injEq] at hkey
      exact .emptied (hkey ▸ rfl)
    · have hold : r.groups.find? key = some group := (hrewrites.group_kept key hcovered) ▸ hkey
      have hcovers : ¬group.Covers id spot := fun hcovers => hcovered ⟨group, hold, hcovers⟩
      exact .kept hold fun _ => hrewrites.showsOn_kept (h.not_shares hold hcovers)
  | merge id ports side =>
    obtain ⟨new, fiber, -, -, hrewrites, hnew⟩ := hlaw
    by_cases hsame : key = new
    · subst hsame
      rw [hnew, Option.some.injEq] at hkey
      exact .emptied (hkey ▸ rfl)
    · refine .kept ((hrewrites.group_kept key hsame) ▸ hkey) fun _ => hrewrites.showsOn_kept ?_
      intro port hport hid hside htouched
      exact h'.group_disjoint hkey hnew hsame hid hside hport ((mem_sortBy _).2 htouched)
  | unmerge other ports =>
    obtain ⟨old, hold, hrewrites, hgone⟩ := hlaw
    by_cases hsame : key = other
    · rw [hsame, hgone] at hkey
      cases hkey
    · have hkept : r.groups.find? key = some group := (hrewrites.group_kept key hsame) ▸ hkey
      refine .kept hkept fun _ => hrewrites.showsOn_kept fun port hport hid hside htouched => ?_
      exact h.group_disjoint hkept hold hsame hid hside hport htouched
  | upload other side fibers =>
    obtain ⟨old, first, rest, hold, rfl, -, hrewrites, hnew⟩ := hlaw
    by_cases hsame : key = other
    · subst hsame
      rw [hnew, Option.some.injEq] at hkey
      subst hkey
      refine .uploaded rfl fun port hport => ?_
      rw [hrewrites.endpoint_touched port hport]
    · have hkept : r.groups.find? key = some group := (hrewrites.group_kept key hsame) ▸ hkey
      refine .kept hkept fun _ => hrewrites.showsOn_kept fun port hport hid hside htouched => ?_
      exact h.group_disjoint hkept hold hsame hid hside hport htouched

end Registry

namespace Server

variable {s : Server} {requests : List Request} {key : MergeGroupId} {group : MergeGroup}

/-- While the group was recorded as it is, a placement on one of its ports was accepted that showed
the fiber. -/
def PlacedOver (s : Server) (requests : List Request) (key : MergeGroupId) (group : MergeGroup)
    (shown : Termination) : Prop :=
  ∃ before p after, requests = before ++ .call (.place p) :: after ∧
    (s.serveAll before).registry.groups.find? key = some group ∧
    group.Covers p.structureId p.spot ∧
    (∃ row, ((s.serveAll before).answer (.place p)).1 = .ok row) ∧
    (s.serveAll before).registry.terminate p.fiber = .ok shown

theorem PlacedOver.concat {shown : Termination} (h : s.PlacedOver requests key group shown)
    (request : Request) : s.PlacedOver (requests ++ [request]) key group shown := by
  obtain ⟨before, p, after, rfl, hplaced⟩ := h
  exact ⟨before, p, after ++ [request], by simp, hplaced⟩

/-- What is known of an upload: the ports show the first fiber of it or one that was placed
since. -/
def Accounted (s : Server) (requests : List Request) (key : MergeGroupId)
    (group : MergeGroup) : Prop :=
  ∀ first rest, group.fibers = first :: rest →
    (s.serveAll requests).registry.ShowsOn group (some first) ∨
      ∃ shown, s.PlacedOver requests key group shown ∧
        (s.serveAll requests).registry.ShowsOn group (some shown)

theorem serveAll_concat (s : Server) (requests : List Request) (request : Request) :
    s.serveAll (requests ++ [request]) = (s.serveAll requests).serve request := by
  simp [serveAll]

theorem Accounted.of_kept {request : Request} (h : s.Accounted requests key group)
    (hshows : ∀ fiber, (s.serveAll requests).registry.ShowsOn group fiber →
      (s.serveAll (requests ++ [request])).registry.ShowsOn group fiber) :
    s.Accounted (requests ++ [request]) key group := by
  intro first rest hfibers
  rcases h first rest hfibers with hfirst | ⟨shown, hplaced, hshown⟩
  · exact .inl (hshows _ hfirst)
  · exact .inr ⟨shown, hplaced.concat request, hshows _ hshown⟩

theorem Accounted.concat (hs : s.Sound) {request : Request}
    (ih : ∀ group, (s.serveAll requests).registry.groups.find? key = some group →
      s.Accounted requests key group)
    (hids : (s.serveAll (requests ++ [request])).registry.ids.Distinct)
    (hkey : (s.serveAll (requests ++ [request])).registry.groups.find? key = some group) :
    s.Accounted (requests ++ [request]) key group := by
  rw [serveAll_concat] at hids hkey
  have hbefore : (s.serveAll requests).Sound :=
    hs.serveAll requests ((frame_serve _ _).distinct hids)
  have hafter := hbefore.serve request hids
  rcases serve_cases (s.serveAll requests) request with hsame | ⟨call, a, rfl, hok, hperform⟩
  · rw [hsame] at hkey
    refine (ih group hkey).of_kept fun fiber hshows => ?_
    rwa [serveAll_concat, hsame]
  · have hlaw := Registry.Sound.law hbefore hperform hids
    cases hbefore.wellFormed.groupChange hafter.wellFormed hlaw hkey with
    | kept recorded shows =>
      refine (ih group recorded).of_kept fun fiber hshows => ?_
      rw [serveAll_concat]
      exact shows fiber hshows
    | emptied empty => exact fun first rest hfibers => by simp [empty] at hfibers
    | uploaded fibers shows =>
      intro first' rest' hfibers
      rw [fibers, List.cons.injEq] at hfibers
      rw [serveAll_concat, ← hfibers.1]
      exact .inl shows
    | @placed p shown recorded covers fiber shows =>
      refine fun _ _ _ => .inr ⟨shown,
        ⟨requests, p, [], rfl, recorded, covers, ⟨a, hok⟩, fiber⟩, ?_⟩
      rw [serveAll_concat]
      exact shows

/-- After every run of requests the ports of a merge group show the first fiber of its last upload,
or else the fiber of a placement on one of them that was accepted since. When they show none, there
is no upload. -/
theorem shown_of_upload (settings : ServerSettings) (plan : NodePlan) (ids : IdSource)
    (requests : List Request)
    (hids : ((ofPlan settings plan ids).serveAll requests).registry.ids.Distinct) :
    let start := ofPlan settings plan ids
    let r := (start.serveAll requests).registry
    ∀ key group, r.groups.find? key = some group →
      (r.ShowsOn group none → group.fibers = []) ∧
      ∀ first rest, group.fibers = first :: rest → r.ShowsOn group (some first) ∨
        ∃ shown, start.PlacedOver requests key group shown ∧ r.ShowsOn group (some shown) := by
  intro start r
  have hs : start.Sound := sound_ofPlan settings plan ids
  have haccounted : ∀ key group, r.groups.find? key = some group →
      start.Accounted requests key group := by
    induction requests using List.reverseRecOn with
    | nil =>
      intro key group hkey
      have hempty : r.groups = .empty := groups_ofPlan settings plan ids
      rw [hempty] at hkey
      cases hkey
    | append_singleton requests request ih =>
      have hbefore : ((ofPlan settings plan ids).serveAll requests).registry.ids.Distinct := by
        rw [serveAll_concat] at hids
        exact (frame_serve _ _).distinct hids
      exact fun key group hkey => Accounted.concat hs (ih hbefore key) hids hkey
  intro key group hkey
  refine ⟨fun hnone => ?_, haccounted key group hkey⟩
  have hsound : (start.serveAll requests).Sound := hs.serveAll requests hids
  cases hfibers : group.fibers with
  | nil => rfl
  | cons first rest =>
    rcases haccounted key group hkey first rest hfibers with hfirst | ⟨shown, -, hshown⟩
    · exact nomatch hsound.wellFormed.showsOn_unique hkey hnone hfirst
    · exact nomatch hsound.wellFormed.showsOn_unique hkey hnone hshown

def uploadThenPlace (port : PortNumber) : List Request :=
  [.call (.merge smallTray.id [1, 2] .a),
    .call (.upload ⟨⟨3⟩⟩ .a [(smallFiber 1).ref, (smallFiber 2).ref]),
    .call (.place ⟨smallTray.id, ⟨port, .a⟩, (smallFiber 3).ref⟩)]

theorem shown_of_small_upload :
    let start := ofPlan {} smallPlan (.numbered 0 0)
    let r := (start.serveAll (uploadThenPlace 3)).registry
    ∃ group first rest, r.groups.find? ⟨⟨3⟩⟩ = some group ∧ group.fibers = first :: rest ∧
      (r.ShowsOn group (some first) ∨
        ∃ shown, start.PlacedOver (uploadThenPlace 3) ⟨⟨3⟩⟩ group shown ∧
          r.ShowsOn group (some shown)) := by
  have hshown := shown_of_upload {} smallPlan (.numbered 0 0) (uploadThenPlace 3)
    (by decide +kernel)
  have hlength : (((ofPlan {} smallPlan (.numbered 0 0)).serveAll
      (uploadThenPlace 3)).registry.groups.find? ⟨⟨3⟩⟩).map (·.fibers.length) = some 2 := by
    decide +kernel
  dsimp only at hshown ⊢
  generalize ((ofPlan {} smallPlan (.numbered 0 0)).serveAll (uploadThenPlace 3)).registry = r
    at hshown hlength ⊢
  obtain ⟨group, hkey, hlength⟩ := Option.map_eq_some_iff.1 hlength
  cases hfibers : group.fibers with
  | nil => simp [hfibers] at hlength
  | cons first rest =>
    exact ⟨group, first, rest, hkey, hfibers, (hshown _ group hkey).2 first rest hfibers⟩

/-- After a placement on a port of the group the list still begins with the first fiber, and both
ports show the third. -/
theorem upload_outlived :
    let r := ((ofPlan {} smallPlan (.numbered 0 0)).serveAll (uploadThenPlace 1)).registry
    (r.groups.find? ⟨⟨3⟩⟩).map (fun group => group.fibers.map (·.fiberId)) =
        some [(smallFiber 1).id, (smallFiber 2).id] ∧
      (∀ spot ∈ [(⟨1, .a⟩ : PortSide), ⟨2, .a⟩], r.Carries smallTray.id spot (smallFiber 3).id) ∧
      ¬∀ key group first rest, r.groups.find? key = some group → group.fibers = first :: rest →
        r.ShowsOn group (some first) := by
  intro r
  have hgroup : (r.groups.find? ⟨⟨3⟩⟩).map (fun group => group.fibers.map (·.fiberId)) =
      some [(smallFiber 1).id, (smallFiber 2).id] := by decide +kernel
  have hcarries : ∀ spot ∈ [(⟨1, .a⟩ : PortSide), ⟨2, .a⟩],
      r.Carries smallTray.id spot (smallFiber 3).id := by decide +kernel
  refine ⟨hgroup, hcarries, fun hclaim => ?_⟩
  have hplace : (r.groups.find? ⟨⟨3⟩⟩).map
      (fun group => (group.structureId, group.side, group.ports)) =
      some (smallTray.id, .a, [1, 2]) := by
    decide +kernel
  obtain ⟨group, hkey, hfibers⟩ := Option.map_eq_some_iff.1 hgroup
  rw [hkey, Option.map_some, Option.some.injEq, Prod.mk.injEq, Prod.mk.injEq] at hplace
  obtain ⟨hid, hside, hports⟩ := hplace
  cases hlist : group.fibers with
  | nil => simp [hlist] at hfibers
  | cons first rest =>
    rw [hlist, List.map_cons, List.cons.injEq] at hfibers
    have hshows : r.Carries group.structureId ⟨1, group.side⟩ first.fiberId :=
      (hclaim _ group first rest hkey hlist).carries (by simp [hports])
    rw [hid, hside, hfibers.1] at hshows
    have hdiffers : ¬r.Carries smallTray.id ⟨1, .a⟩ (smallFiber 1).id := by decide +kernel
    exact hdiffers hshows

end Server
end CrossConnect
