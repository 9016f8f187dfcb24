import CrossConnect.Proofs.Registry.Operations
import CrossConnect.Server

/-!
Whatever its clients call, in whatever order and with whatever failpoints, an authority that was
filled from a plan keeps its rows and merge groups in agreement.
-/
namespace CrossConnect

theorem map_eq_ok {α β : Type} {x : Except Failure α} {f : α → β} {b : β} :
    f <$> x = .ok b ↔ ∃ a, x = .ok a ∧ f a = b := by
  cases x with
  | error e => simp [Functor.map, Except.map]
  | ok a => simp [Functor.map, Except.map]

namespace Registry

variable {r r' : Registry} {id : StructureId} {spot : PortSide} {side : Side} {key : MergeGroupId}
  {ports : List PortNumber} {limits : Limits}

/-! ### One call -/

def GroupsDrawn (r : Registry) : Prop :=
  ∀ ⦃key group⦄, r.groups.find? key = some group → ∃ n < r.ids.drawn, key = ⟨r.ids.draw n⟩

theorem GroupsDrawn.of_frame (h : r.GroupsDrawn) (hframe : Frame r r')
    (hgroups : ∀ key group, r'.groups.find? key = some group →
      ∃ old, r.groups.find? key = some old) :
    r'.GroupsDrawn := by
  intro key group hkey
  obtain ⟨old, hold⟩ := hgroups key group hkey
  obtain ⟨n, hn, rfl⟩ := h hold
  exact ⟨n, hn.trans_le hframe.drawn, by rw [hframe.draw]⟩

theorem GroupsDrawn.of_sameGroups (h : r.GroupsDrawn) (hframe : Frame r r')
    (hgroups : SameGroups r r') : r'.GroupsDrawn := by
  refine h.of_frame hframe fun _ _ hkey => ?_
  obtain ⟨old, hold, -⟩ := hgroups.back hkey
  exact ⟨old, hold⟩

/-- Well formed, and so that a new identifier names no group yet. -/
structure Sound (r : Registry) (limits : Limits) : Prop where
  wellFormed : r.WellFormed limits
  drawn : r.GroupsDrawn

theorem GroupsDrawn.later_fresh (h : r.GroupsDrawn) (hframe : Frame r r')
    (hids : r'.ids.next.2.Distinct) : r.groups.find? ⟨r'.ids.next.1⟩ = none := by
  refine Option.eq_none_iff_forall_ne_some.2 fun group hgroup => ?_
  obtain ⟨n, hn, hdraw⟩ := h hgroup
  have hlast : r'.ids.drawn < r'.ids.next.2.drawn := Nat.lt_succ_self _
  have hbefore := hn.trans_le hframe.drawn
  rw [← hframe.draw] at hdraw
  have := hids _ hlast n (hbefore.trans hlast) (congrArg Id.uuid hdraw)
  omega

theorem GroupsDrawn.next_fresh (h : r.GroupsDrawn)
    (hids : r.ids.next.2.Distinct) : r.groups.find? ⟨r.ids.next.1⟩ = none :=
  h.later_fresh (.refl r) hids

theorem frame_place {p : Placement} {row : Splice} (h : r.place p = .ok (row, r')) :
    Frame r r' := by
  obtain ⟨-, fiber, -, heq⟩ := place_eq_ok h
  rw [(Prod.mk.inj heq).2]
  exact (frame_writeEndpoints ..).trans (frame_openRow ..)

theorem frame_clear {outcome : ClearOutcome} (h : r.clear id spot = .ok (outcome, r')) :
    Frame r r' := by
  obtain ⟨-, rfl⟩ := clear_eq_ok h
  exact ⟨rfl, rfl, rfl, rfl, le_rfl⟩

theorem frame_merge (h : r.merge limits id ports side = .ok (key, r')) :
    Frame { r with ids := r.ids.next.2 } r' := by
  obtain ⟨sorted, -, -, -, rfl⟩ := merge_eq_ok h
  refine Frame.trans ?_ (frame_writeEndpoints ..)
  exact ⟨rfl, rfl, rfl, rfl, le_rfl⟩

theorem frame_unmerge (h : r.unmerge key ports = .ok r') : Frame r r' := by
  obtain ⟨group, -, -, rfl⟩ := unmerge_eq_ok h
  exact (frame_writeEndpoints ..).trans ⟨rfl, rfl, rfl, rfl, le_rfl⟩

theorem frame_perform {c : Call} {a : c.Answer} (h : r.perform limits c = .ok (a, r')) :
    Frame r r' := by
  cases c with
  | portsOf _ | rowsOf _ | fibersOf _ =>
    obtain ⟨_, -, heq⟩ := map_eq_ok.1 h
    rw [← (Prod.mk.inj heq).2]
    exact .refl r
  | place p => exact frame_place h
  | clear id spot => exact frame_clear h
  | merge id ports side =>
    obtain ⟨⟨key, _⟩, hmerge, heq⟩ := map_eq_ok.1 h
    obtain rfl := (Prod.mk.inj heq).2
    refine Frame.trans ?_ (frame_merge hmerge)
    exact ⟨rfl, rfl, rfl, rfl, Nat.le_succ _⟩
  | unmerge key ports =>
    obtain ⟨_, hunmerge, heq⟩ := map_eq_ok.1 h
    obtain rfl := (Prod.mk.inj heq).2
    exact frame_unmerge hunmerge
  | upload key side fibers =>
    obtain ⟨_, hupload, heq⟩ := map_eq_ok.1 h
    obtain rfl := (Prod.mk.inj heq).2
    exact frame_upload hupload

theorem perform_read {call : Call} {a : call.Answer}
    (hread : call.isWrite = false) (h : r.perform limits call = .ok (a, r')) : r' = r := by
  cases call with
  | portsOf | rowsOf | fibersOf =>
    obtain ⟨_, -, heq⟩ := map_eq_ok.1 h
    exact (Prod.mk.inj heq).2.symm
  | _ => cases hread

theorem rowsOf_eq_ok {rows : List Splice}
    (h : r.perform limits (.rowsOf id) = .ok (rows, r')) : rows = r.listing id ∧ r' = r := by
  obtain ⟨listed, hlisted, heq⟩ := map_eq_ok.1 h
  obtain ⟨record, -, rfl⟩ := map_eq_ok.1 hlisted
  obtain ⟨rfl, rfl⟩ := Prod.mk.inj heq
  exact ⟨rfl, rfl⟩

theorem Sound.place (h : r.Sound limits) {p : Placement} {row : Splice}
    (hplace : r.place p = .ok (row, r')) : r'.Sound limits := by
  refine ⟨h.wellFormed.place hplace, h.drawn.of_sameGroups (frame_place hplace) ?_⟩
  obtain ⟨-, -, fiber, -, rfl⟩ := h.wellFormed.place_eq_ok hplace
  exact .of_eq (groups_writeEndpoints ..)

theorem Sound.clear (h : r.Sound limits) {outcome : ClearOutcome}
    (hclear : r.clear id spot = .ok (outcome, r')) : r'.Sound limits :=
  ⟨h.wellFormed.clear hclear,
    h.drawn.of_sameGroups (frame_clear hclear) (h.wellFormed.clear_fiberChange hclear).groups⟩

theorem Sound.merge (h : r.Sound limits) (hmerge : r.merge limits id ports side = .ok (key, r'))
    (hids : r'.ids.Distinct) : r'.Sound limits := by
  have hframe := frame_merge hmerge
  have hfresh := h.drawn.next_fresh (hframe.distinct hids)
  refine ⟨h.wellFormed.merge hmerge hfresh, fun k group hk => ?_⟩
  obtain ⟨sorted, -, -, rfl, rfl⟩ := merge_eq_ok hmerge
  rw [groups_writeEndpoints, Table.find?_insert] at hk
  split at hk
  next heq =>
    exact ⟨r.ids.drawn, hframe.drawn, by rw [hframe.draw, heq]; rfl⟩
  next =>
    obtain ⟨n, hn, rfl⟩ := h.drawn hk
    exact ⟨n, hn.trans (Nat.lt_of_succ_le hframe.drawn), by rw [hframe.draw]; rfl⟩

theorem Sound.unmerge (h : r.Sound limits) (hunmerge : r.unmerge key ports = .ok r') :
    r'.Sound limits := by
  refine ⟨h.wellFormed.unmerge hunmerge,
    h.drawn.of_frame (frame_unmerge hunmerge) fun k group hk => ?_⟩
  obtain ⟨old, -, -, rfl⟩ := unmerge_eq_ok hunmerge
  have hk : (r.groups.erase key).find? k = some group := hk
  rw [Table.find?_erase] at hk
  split at hk
  · cases hk
  · exact ⟨group, hk⟩

theorem Sound.upload (h : r.Sound limits) {fibers : List FiberRef}
    (hupload : r.upload limits key side fibers = .ok r') : r'.Sound limits := by
  refine ⟨h.wellFormed.upload hupload, h.drawn.of_sameGroups (frame_upload hupload) ?_⟩
  obtain ⟨group, -, -, -, -, -, shown, -, rfl⟩ := upload_eq_ok hupload
  exact .of_modify rfl

theorem Sound.perform (h : r.Sound limits) {c : Call} {a : c.Answer}
    (hperform : r.perform limits c = .ok (a, r')) (hids : r'.ids.Distinct) : r'.Sound limits := by
  cases c with
  | portsOf _ | rowsOf _ | fibersOf _ =>
    obtain ⟨_, -, heq⟩ := map_eq_ok.1 hperform
    rw [← (Prod.mk.inj heq).2]
    exact h
  | place p => exact h.place hperform
  | clear id spot => exact h.clear hperform
  | merge id ports side =>
    obtain ⟨⟨key, _⟩, hmerge, heq⟩ := map_eq_ok.1 hperform
    obtain rfl := (Prod.mk.inj heq).2
    exact h.merge hmerge hids
  | unmerge key ports =>
    obtain ⟨_, hunmerge, heq⟩ := map_eq_ok.1 hperform
    obtain rfl := (Prod.mk.inj heq).2
    exact h.unmerge hunmerge
  | upload key side fibers =>
    obtain ⟨_, hupload, heq⟩ := map_eq_ok.1 hperform
    obtain rfl := (Prod.mk.inj heq).2
    exact h.upload hupload

/-! ### The plan -/

theorem rows_groups_addStructures (r : Registry) (records : List Structure) :
    (r.addStructures records).2.rows = r.rows ∧ (r.addStructures records).2.groups = r.groups := by
  induction records generalizing r with
  | nil => exact ⟨rfl, rfl⟩
  | cons record records ih =>
    simp only [addStructures, addStructure]
    cases htype : record.componentType with
    | none => exact ih _
    | some typeId =>
      dsimp only
      split
      next r₁ heq =>
        split at heq
        · cases heq
          exact ih _
        · cases heq
      next => exact ⟨rfl, rfl⟩

theorem rows_groups_load (r : Registry) (plan : NodePlan) :
    (r.load plan).2.rows = r.rows ∧ (r.load plan).2.groups = r.groups := by
  have hcomponents : ∀ (components : List ComponentPlan) (r : Registry),
      (components.foldl (fun r c => r.addComponentType c.build) r).rows = r.rows ∧
      (components.foldl (fun r c => r.addComponentType c.build) r).groups = r.groups := by
    intro components
    induction components with
    | nil => exact fun r => ⟨rfl, rfl⟩
    | cons component components ih => exact fun r => ih _
  have hcables : ∀ (cables : List Cable) (r : Registry),
      (cables.foldl addCable r).rows = r.rows ∧ (cables.foldl addCable r).groups = r.groups := by
    intro cables
    induction cables with
    | nil => exact fun r => ⟨rfl, rfl⟩
    | cons cable cables ih => exact fun r => ih _
  rw [load]
  obtain ⟨hrows, hgroups⟩ := hcomponents plan.componentTypes r
  generalize plan.componentTypes.foldl (fun r c => r.addComponentType c.build) r = r₁
    at hrows hgroups
  have hstructures := rows_groups_addStructures r₁ plan.structures
  rw [hrows, hgroups] at hstructures
  dsimp only
  split
  next r₂ heq =>
    rw [heq] at hstructures
    have := hcables (plan.buildCables r₂.ids).1 { r₂ with ids := (plan.buildCables r₂.ids).2 }
    exact ⟨this.1.trans hstructures.1, this.2.trans hstructures.2⟩
  next => exact hstructures

end Registry

/-! ### Runs -/

inductive Request
  | call (c : Call)
  | setFailpoint (key : String)
  | clearFailpoint (key : String)
deriving DecidableEq, Repr

namespace Server

def ofPlan (settings : ServerSettings) (plan : NodePlan) (ids : IdSource) : Server :=
  { ofSettings settings ids with registry := ((ofSettings settings ids).registry.load plan).2 }

def serve (s : Server) : Request → Server
  | .call c => (s.answer c).2
  | .setFailpoint key => s.setFailpoint key
  | .clearFailpoint key => s.clearFailpoint key

def serveAll (s : Server) (requests : List Request) : Server :=
  requests.foldl serve s

theorem answer_cases (s : Server) (c : Call) :
    (s.answer c).2.limits = s.limits ∧
      ((∃ e, (s.answer c).1 = .error e) ∧ (s.answer c).2.registry = s.registry ∨
        ∃ a, (s.answer c).1 = .ok a ∧
          s.registry.perform s.limits c = .ok (a, (s.answer c).2.registry)) := by
  simp only [answer]
  split
  next key _ => exact ⟨rfl, .inl ⟨⟨_, rfl⟩, rfl⟩⟩
  next =>
    split
    next a registry hperform => exact ⟨rfl, .inr ⟨a, rfl, hperform⟩⟩
    next e _ => exact ⟨rfl, .inl ⟨⟨e, rfl⟩, rfl⟩⟩

theorem serve_cases (s : Server) (request : Request) :
    (s.serve request).registry = s.registry ∨
      ∃ (call : Call) (a : call.Answer), request = .call call ∧ (s.answer call).1 = .ok a ∧
        s.registry.perform s.limits call = .ok (a, (s.serve request).registry) := by
  cases request with
  | call call =>
    obtain ⟨-, ⟨-, hsame⟩ | ⟨a, hok, hperform⟩⟩ := answer_cases s call
    · exact .inl hsame
    · exact .inr ⟨call, a, rfl, hok, hperform⟩
  | setFailpoint key =>
    left
    simp only [serve, setFailpoint]
    split <;> rfl
  | clearFailpoint key => exact .inl rfl

theorem perform_of_ok {s : Server} {call : Call} {a : call.Answer} (h : (s.answer call).1 = .ok a) :
    s.registry.perform s.limits call = .ok (a, (s.answer call).2.registry) := by
  obtain ⟨-, ⟨⟨e, herror⟩, -⟩ | ⟨a', hok, hperform⟩⟩ := answer_cases s call
  · rw [h] at herror
    cases herror
  · obtain rfl := Except.ok.inj (h.symm.trans hok)
    exact hperform

section unhindered

variable {s : Server} {call : Call} (hfree : s.failpointFor call = none)

include hfree

theorem answer_ok {a : call.Answer} {registry : Registry}
    (h : s.registry.perform s.limits call = .ok (a, registry)) :
    s.answer call = (.ok a, { s with registry, log := s.log ++ [call] }) := by
  have hfree : failpointFor { s with log := s.log ++ [call] } call = none := hfree
  simp only [answer, hfree, h]

theorem answer_error {e : Failure} (h : s.registry.perform s.limits call = .error e) :
    s.answer call = (.error e, { s with log := s.log ++ [call] }) := by
  have hfree : failpointFor { s with log := s.log ++ [call] } call = none := hfree
  simp only [answer, hfree, h]

end unhindered

theorem answer_listing {s : Server} {id : StructureId} (hfree : s.failpointFor (.rowsOf id) = none)
    (hknown : ∃ record, s.registry.structures.find? id = some record) :
    s.answer (.rowsOf id) = (.ok (s.registry.listing id),
      { s with log := s.log ++ [.rowsOf id] }) := by
  obtain ⟨record, hrecord⟩ := hknown
  refine answer_ok hfree ?_
  simp only [Registry.perform, Registry.rowsOf, Registry.structure?, hrecord]
  rfl

theorem frame_answer (s : Server) (c : Call) : s.registry.Frame (s.answer c).2.registry := by
  obtain ⟨-, ⟨-, hsame⟩ | ⟨a, -, hperform⟩⟩ := answer_cases s c
  · rw [hsame]
    exact .refl _
  · exact Registry.frame_perform hperform

def Sound (s : Server) : Prop :=
  s.registry.Sound s.limits

theorem Sound.of_same {s s' : Server} (h : s.Sound) (hlimits : s'.limits = s.limits)
    (hsame : s'.registry = s.registry) : s'.Sound := by
  simp only [Sound]
  rw [hlimits, hsame]
  exact h

theorem Sound.of_perform {s s' : Server} (h : s.Sound) (hlimits : s'.limits = s.limits)
    {call : Call} {a : call.Answer}
    (hperform : s.registry.perform s.limits call = .ok (a, s'.registry))
    (hids : s'.registry.ids.Distinct) : s'.Sound := by
  simp only [Sound]
  rw [hlimits]
  exact Registry.Sound.perform h hperform hids

theorem Sound.answer {s : Server} (h : s.Sound) (c : Call)
    (hids : (s.answer c).2.registry.ids.Distinct) : (s.answer c).2.Sound := by
  obtain ⟨hlimits, ⟨-, hsame⟩ | ⟨a, -, hperform⟩⟩ := answer_cases s c
  · exact h.of_same hlimits hsame
  · exact h.of_perform hlimits hperform hids

theorem frame_serve (s : Server) (request : Request) :
    s.registry.Frame (s.serve request).registry := by
  rcases serve_cases s request with hsame | ⟨call, a, -, -, hperform⟩
  · rw [hsame]
    exact .refl _
  · exact Registry.frame_perform hperform

theorem limits_serve (s : Server) (request : Request) : (s.serve request).limits = s.limits := by
  cases request with
  | call c => exact (answer_cases s c).1
  | setFailpoint key =>
    simp only [serve, setFailpoint]
    split <;> rfl
  | clearFailpoint key => rfl

theorem Sound.serve {s : Server} (h : s.Sound) (request : Request)
    (hids : (s.serve request).registry.ids.Distinct) : (s.serve request).Sound := by
  rcases serve_cases s request with hsame | ⟨call, a, -, -, hperform⟩
  · exact h.of_same (limits_serve s request) hsame
  · exact h.of_perform (limits_serve s request) hperform hids

theorem frame_serveAll (s : Server) (requests : List Request) :
    s.registry.Frame (s.serveAll requests).registry := by
  induction requests generalizing s with
  | nil => exact .refl _
  | cons request requests ih => exact (frame_serve s request).trans (ih _)

theorem limits_serveAll (s : Server) (requests : List Request) :
    (s.serveAll requests).limits = s.limits := by
  induction requests generalizing s with
  | nil => rfl
  | cons request requests ih => exact (ih _).trans (limits_serve s request)

theorem serveAll_keeps {s : Server} {P : Registry → Prop} (h : P s.registry)
    (hkeeps : ∀ {r r' : Registry} {call : Call} {a : call.Answer},
      r.perform s.limits call = .ok (a, r') → P r → P r') (requests : List Request) :
    P (s.serveAll requests).registry := by
  induction requests generalizing s with
  | nil => exact h
  | cons request requests ih =>
    refine ih ?_ (limits_serve s request ▸ hkeeps)
    rcases serve_cases s request with hsame | ⟨call, a, -, -, hperform⟩
    · exact hsame ▸ h
    · exact hkeeps hperform h

theorem serveAll_keeps_distinct {s : Server} {P : Registry → Prop} (h : P s.registry)
    (hkeeps : ∀ {r r' : Registry} {call : Call} {a : call.Answer},
      r.perform s.limits call = .ok (a, r') → r'.ids.Distinct → P r → P r')
    (requests : List Request) (hids : (s.serveAll requests).registry.ids.Distinct) :
    P (s.serveAll requests).registry :=
  serveAll_keeps (P := fun r => r.ids.Distinct → P r) (fun _ => h)
    (fun hperform hr hdistinct => hkeeps hperform hdistinct
      (hr ((Registry.frame_perform hperform).distinct hdistinct))) requests hids

theorem Sound.serveAll {s : Server} (h : s.Sound) (requests : List Request)
    (hids : (s.serveAll requests).registry.ids.Distinct) : (s.serveAll requests).Sound := by
  rw [Sound, limits_serveAll]
  exact serveAll_keeps_distinct (P := (Registry.Sound · s.limits)) h
    (fun hperform hdistinct hr => hr.perform hperform hdistinct) requests hids

theorem limits_ofSettings (settings : ServerSettings) (ids : IdSource) :
    (ofSettings settings ids).limits = settings.effectiveLimits ∧
      (ofSettings settings ids).registry = { ids } := by
  simp only [ofSettings]
  have : ∀ (keys : List String) (s : Server), (keys.foldl setFailpoint s).limits = s.limits ∧
      (keys.foldl setFailpoint s).registry = s.registry := by
    intro keys
    induction keys with
    | nil => exact fun s => ⟨rfl, rfl⟩
    | cons key keys ih =>
      intro s
      have hstep : (s.setFailpoint key).limits = s.limits ∧
          (s.setFailpoint key).registry = s.registry := by
        simp only [setFailpoint]
        split <;> exact ⟨rfl, rfl⟩
      exact ⟨(ih _).1.trans hstep.1, (ih _).2.trans hstep.2⟩
  exact this _ _

theorem rows_ofPlan (settings : ServerSettings) (plan : NodePlan) (ids : IdSource) :
    (ofPlan settings plan ids).registry.rows = .empty := by
  have hloaded := (Registry.rows_groups_load (ofSettings settings ids).registry plan).1
  rw [(limits_ofSettings settings ids).2] at hloaded
  rw [ofPlan, (limits_ofSettings settings ids).2]
  exact hloaded

theorem groups_ofPlan (settings : ServerSettings) (plan : NodePlan) (ids : IdSource) :
    (ofPlan settings plan ids).registry.groups = .empty := by
  have hloaded := (Registry.rows_groups_load (ofSettings settings ids).registry plan).2
  rw [(limits_ofSettings settings ids).2] at hloaded
  rw [ofPlan, (limits_ofSettings settings ids).2]
  exact hloaded

theorem sound_ofPlan (settings : ServerSettings) (plan : NodePlan) (ids : IdSource) :
    (ofPlan settings plan ids).Sound := by
  have hempty := groups_ofPlan settings plan ids
  refine ⟨.of_empty (rows_ofPlan settings plan ids) hempty, fun key group hkey => ?_⟩
  rw [hempty] at hkey
  cases hkey

/-- The authority was filled from a plan and has served requests since. -/
def Reachable (s : Server) : Prop :=
  ∃ settings plan ids requests, s = (ofPlan settings plan ids).serveAll requests

theorem Reachable.sound {s : Server} (h : s.Reachable) (hids : s.registry.ids.Distinct) :
    s.Sound := by
  obtain ⟨settings, plan, ids, requests, rfl⟩ := h
  exact (sound_ofPlan settings plan ids).serveAll requests hids

/-- Rows and merge groups agree after every sequence of requests to an authority that was filled
from a plan, as long as no identifier is drawn twice. -/
theorem wellFormed_serveAll (settings : ServerSettings) (plan : NodePlan) (ids : IdSource)
    (requests : List Request)
    (hids : ((ofPlan settings plan ids).serveAll requests).registry.ids.Distinct) :
    ((ofPlan settings plan ids).serveAll requests).registry.WellFormed
      settings.effectiveLimits := by
  have h := ((sound_ofPlan settings plan ids).serveAll requests hids).wellFormed
  have hlimits : (ofPlan settings plan ids).limits = settings.effectiveLimits :=
    (limits_ofSettings settings ids).1
  rwa [limits_serveAll, hlimits] at h

def smallTray : Structure :=
  { id := ⟨⟨2⟩⟩, name := "tray", slotStart := 1, slotEnd := 1, componentType := some ⟨⟨1⟩⟩ }

/-- One structure with three ports on each side, and a cable of three fibers. -/
def smallPlan : NodePlan where
  name := "small"
  componentTypes := [{ id := ⟨⟨1⟩⟩, name := "tray", inward := 3, outward := 3 }]
  structures := [smallTray]
  cables := [{ id := ⟨⟨3⟩⟩, name := "cable", bundles := [{ number := 1, fiberCount := 3 }] }]

def smallFiber (absolute : UInt32) : Fiber :=
  { id := ⟨⟨BitVec.ofNat 128 (absolute.toNat - 1)⟩⟩
    cableId := ⟨⟨3⟩⟩
    absolute
    inBundle := absolute
    bundle := 1
    color := colorOf absolute }

theorem wellFormed_after_merge :
    let requests : List Request :=
      [.call (.place ⟨smallTray.id, ⟨2, .a⟩, (smallFiber 1).ref⟩),
        .call (.merge smallTray.id [3, 1, 2] .a), .setFailpoint "merge_ports",
        .call (.merge smallTray.id [1, 2] .b)]
    let server := (ofPlan {} smallPlan (.numbered 0 0)).serveAll requests
    server.registry.groups.values.map (·.ports) = [[1, 2, 3]] ∧
      server.registry.WellFormed (ServerSettings.effectiveLimits {}) :=
  ⟨by decide +kernel, wellFormed_serveAll _ _ _ _ (by decide +kernel)⟩

end Server
end CrossConnect
