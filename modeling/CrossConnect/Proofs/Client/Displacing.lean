import CrossConnect.Proofs.Client.Beside
import CrossConnect.Proofs.Client.Overlap

/-!
What becomes of the fibers that drops and fills connect while others of them run and ports are
merged. The authority keeps no fiber for the one who placed it: the last write to a port stands. A
fiber that was accepted stays on its port until one of three things happens to the port, each of
them on record.
-/
namespace CrossConnect

open Client Occupancy

namespace Exchange

variable {e : Exchange} {p : Placement} {id : StructureId} {ports : List PortNumber} {side : Side}

def Places (e : Exchange) (p : Placement) : Prop :=
  e.call = .place p ∧ e.succeeded = true

def Merges (e : Exchange) (id : StructureId) (ports : List PortNumber) (side : Side) : Prop :=
  e.call = .merge id ports side ∧ e.succeeded = true

def TakesIn (e : Exchange) (slot : FiberSlot) : Prop :=
  ∃ ports, e.Merges slot.1 ports slot.2.side ∧ slot.2.port ∈ ports

theorem Places.mem_acceptedOf {exchanges : List Exchange} (h : e.Places p) (hmem : e ∈ exchanges) :
    p ∈ acceptedOf exchanges := by
  refine List.mem_filterMap.2 ⟨e, List.mem_filter.2 ⟨hmem, h.2⟩, ?_⟩
  simp only [placement?]
  rw [h.1]

theorem exists_of_mem_acceptedOf {exchanges : List Exchange} (h : p ∈ acceptedOf exchanges) :
    ∃ e ∈ exchanges, e.Places p := by
  obtain ⟨e, hmem, hplacement⟩ := List.mem_filterMap.1 h
  obtain ⟨hmem, hsucceeded⟩ := List.mem_filter.1 hmem
  refine ⟨e, hmem, ?_, hsucceeded⟩
  simp only [placement?] at hplacement
  split at hplacement
  next heq => exact heq.trans (congrArg _ (Option.some.inj hplacement))
  next => cases hplacement

end Exchange

theorem mem_exchangesOf {σ : Type} {index : Nat} {records : List (Record σ)} {e : Exchange} :
    e ∈ exchangesOf index records ↔
      ∃ record ∈ records, record.index = index ∧ record.exchange = e := by
  simp only [exchangesOf, List.mem_map, List.mem_filter, decide_eq_true_eq, and_assoc]

/-- The rows that the editor showed when the operation with the index was started. -/
def Scene.ShownAt {σ : Type} (authority : Authority σ) (start : Scene σ) (schedule : List Event)
    (index : Nat) (rows : List Splice) : Prop :=
  ∃ early operation late, schedule = early ++ .start operation :: late ∧
    (start.run authority early).activities.length = index ∧
    (start.run authority early).client.editor.rows = rows

theorem Scene.ShownAt.concat {σ : Type} {authority : Authority σ} {start : Scene σ}
    {schedule : List Event} {index : Nat} {rows : List Splice}
    (h : start.ShownAt authority schedule index rows) (event : Event) :
    start.ShownAt authority (schedule ++ [event]) index rows := by
  obtain ⟨early, operation, late, rfl, hindex, hrows⟩ := h
  exact ⟨early, operation, late ++ [event], by simp, hindex, hrows⟩

/-- Why a fiber that was placed by one call is not on its port after a later one. -/
inductive Displaces (shown : Nat → List Splice → Prop) (records : List (Record Server))
    (record : Record Server) (p : Placement) : Record Server → Prop
  | overwritten {later : Record Server} {q : Placement} (other : later.index ≠ record.index)
      (placed : later.exchange.Places q)
      (reached : later.authority.registry.Reaches q p.structureId p.spot)
      (differs : q.fiber.fiberId ≠ p.fiber.fiberId) : Displaces shown records record p later
  | merged {later : Record Server} {ports : List PortNumber} {port : PortNumber} {fiber : FiberId}
      (merges : later.exchange.Merges p.structureId ports p.spot.side) (taken : p.spot.port ∈ ports)
      (leads : later.authority.registry.Leads p.structureId p.spot.side ports port fiber)
      (differs : fiber ≠ p.fiber.fiberId) : Displaces shown records record p later
  /-- The same operation writes the port through a merge group of the meantime, which the editor did
  not show when the operation was started. -/
  | grouped {later merge : Record Server} {q : Placement} {rows : List Splice}
      (same : later.index = record.index) (placed : later.exchange.Places q)
      (reached : later.authority.registry.Reaches q p.structureId p.spot)
      (differs : q.fiber.fiberId ≠ p.fiber.fiberId) (recorded : merge ∈ records)
      (taken : merge.exchange.TakesIn p.slot) (taken' : merge.exchange.TakesIn q.slot)
      (began : shown record.index rows)
      (unseen : ∀ key, groupOf rows p.spot = some key → groupOf rows q.spot ≠ some key) :
      Displaces shown records record p later

section displaced

variable {shown shown' : Nat → List Splice → Prop} {records records' : List (Record Server)}
  {record later last : Record Server} {p : Placement} {r r' : Registry}

theorem Displaces.mono (h : Displaces shown records record p later)
    (hshown : ∀ index rows, shown index rows → shown' index rows)
    (hrecords : records ⊆ records') : Displaces shown' records' record p later := by
  cases h with
  | overwritten other placed reached differs => exact .overwritten other placed reached differs
  | merged merges taken leads differs => exact .merged merges taken leads differs
  | grouped same placed reached differs recorded taken taken' began unseen =>
    exact .grouped same placed reached differs (hrecords recorded) taken taken' (hshown _ _ began)
      unseen

/-- Every fiber that was placed is on its port, or there is a record of what has displaced it. -/
def Kept (shown : Nat → List Splice → Prop) (records : List (Record Server))
    (r : Registry) : Prop :=
  ∀ before record after p, records = before ++ record :: after → record.exchange.Places p →
    r.Carries p.structureId p.spot p.fiber.fiberId ∨
      ∃ later ∈ after, Displaces shown records record p later

theorem Kept.mono (h : Kept shown records r)
    (hshown : ∀ index rows, shown index rows → shown' index rows) : Kept shown' records r :=
  fun before record after p heq hplaces => (h before record after p heq hplaces).imp_right
    fun ⟨later, hlater, hdisplaces⟩ => ⟨later, hlater, hdisplaces.mono hshown (List.Subset.refl _)⟩

theorem Kept.concat (h : Kept shown records r)
    (hbefore : ∀ record ∈ records, ∀ p, record.exchange.Places p →
      r.Carries p.structureId p.spot p.fiber.fiberId →
        r'.Carries p.structureId p.spot p.fiber.fiberId ∨ Displaces shown records record p last)
    (hlast : ∀ p, last.exchange.Places p → r'.Carries p.structureId p.spot p.fiber.fiberId) :
    Kept shown (records ++ [last]) r' := by
  intro before record after p heq hplaces
  have hmono : ∀ {later}, Displaces shown records record p later →
      Displaces shown (records ++ [last]) record p later :=
    fun hdisplaces => hdisplaces.mono (fun _ _ => id) (List.subset_append_left ..)
  -- The placement is the last call itself, or one before it that was kept until then.
  rcases List.eq_nil_or_concat after with rfl | ⟨after, final, rfl⟩
  · obtain ⟨-, heq⟩ := List.append_inj' heq rfl
    obtain rfl := List.singleton_inj.1 heq
    exact .inl (hlast p hplaces)
  · rw [List.concat_eq_append, ← List.cons_append, ← List.append_assoc] at heq
    obtain ⟨rfl, hfinal⟩ := List.append_inj' heq rfl
    obtain rfl := List.singleton_inj.1 hfinal
    rcases h before record after p rfl hplaces with hcarries | ⟨later, hlater, hdisplaces⟩
    · have hmem : record ∈ before ++ record :: after :=
        List.mem_append_right _ List.mem_cons_self
      refine (hbefore record hmem p hplaces hcarries).imp_right fun hdisplaces => ?_
      exact ⟨last, by simp, hmono hdisplaces⟩
    · exact .inr ⟨later, by simp [hlater], hmono hdisplaces⟩

end displaced

/-! ### The authority -/

theorem Registry.fibersOf_of_frame {r r' : Registry} (h : Frame r r') (id : CableId) :
    r'.fibersOf id = r.fibersOf id := by
  simp only [fibersOf, cable?]
  rw [h.cables]

def MergedIn (records : List (Record Server)) (id : StructureId) (side : Side)
    (ports : List PortNumber) : Prop :=
  ∃ record ∈ records, record.exchange.Merges id ports side

theorem MergedIn.concat {records : List (Record Server)} {last : Record Server} {id : StructureId}
    {side : Side} {ports : List PortNumber} (h : MergedIn records id side ports) :
    MergedIn (records ++ [last]) id side ports :=
  h.imp fun _ ⟨hmem, hmerges⟩ => ⟨List.mem_append_left _ hmem, hmerges⟩

structure Holds (r₀ : Registry) (home : StructureId) (shown : Nat → List Splice → Prop)
    (records : List (Record Server)) (server : Server) : Prop where
  sound : server.Sound
  frame : r₀.Frame server.registry
  grown : r₀.Grown server.registry home (MergedIn records home)
  filled : ∀ record ∈ records, ∀ p, record.exchange.Places p →
    ∀ id spot, r₀.Reaches p id spot → server.registry.Filled id spot
  kept : Kept shown records server.registry

namespace Holds

variable {r₀ : Registry} {selected : SelectedStructure} {home : StructureId}
  {shown shown' : Nat → List Splice → Prop}
  {records : List (Record Server)} {server server' : Server} {limits : Limits} {index : Nat}
  {rows₀ : List Splice}

theorem mono (h : Holds r₀ home shown records server)
    (hshown : ∀ index rows, shown index rows → shown' index rows) :
    Holds r₀ home shown' records server :=
  ⟨h.sound, h.frame, h.grown, h.filled, h.kept.mono hshown⟩

theorem concat_same (h : Holds r₀ home shown records server) {last : Record Server}
    (hsound : server'.Sound) (hsame : server'.registry = server.registry)
    (hplaces : ∀ p, ¬last.exchange.Places p) :
    Holds r₀ home shown (records ++ [last]) server' := by
  refine ⟨hsound, hsame ▸ h.frame, ?_, fun record hmem p hp id spot hreach => ?_, ?_⟩
  · rw [hsame]
    exact h.grown.mono fun _ _ => .concat
  · rw [hsame]
    rcases List.mem_append.1 hmem with hmem | hmem
    · exact h.filled record hmem p hp id spot hreach
    · obtain rfl := List.mem_singleton.1 hmem
      exact absurd hp (hplaces p)
  · rw [hsame]
    exact h.kept.concat (fun _ _ _ _ hcarries => .inl hcarries) fun p hp => absurd hp (hplaces p)

theorem concat_merge (h : Holds r₀ home shown records server) {ports : List PortNumber}
    {side : Side} {answer : Except Failure Unit} (hok : answer.isOk = true) {key : MergeGroupId}
    (hmerge : server.registry.merge limits home ports side = .ok (key, server'.registry))
    (hfresh : server.registry.groups.find? key = none) (hsound : server'.Sound)
    (hframe : server.registry.Frame server'.registry) :
    Holds r₀ home shown (records ++ [⟨index, ⟨.merge home ports side, answer⟩, server⟩])
      server' := by
  have hmerges : Exchange.Merges ⟨.merge home ports side, answer⟩ home ports side := by
    refine ⟨rfl, ?_⟩
    cases answer with
    | ok => rfl
    | error => cases hok
  have hnone : ∀ p, ¬Exchange.Places ⟨.merge home ports side, answer⟩ p := fun p hp => nomatch hp.1
  refine ⟨hsound, h.frame.trans hframe, ?_, fun record hmem p hp id spot hreach => ?_, ?_⟩
  · refine h.grown.merge hmerge hfresh (fun _ _ => .concat) ?_
    exact ⟨_, List.mem_append_right _ (List.mem_singleton_self _), hmerges⟩
  · rcases List.mem_append.1 hmem with hmem | hmem
    · exact (h.filled record hmem p hp id spot hreach).merge hmerge
    · obtain rfl := List.mem_singleton.1 hmem
      exact absurd hp (hnone p)
  · refine h.kept.concat (fun record hmem p hp hcarries => ?_) fun p hp => absurd hp (hnone p)
    refine (hcarries.merge hmerge).imp_right ?_
    rintro ⟨⟨rfl, rfl, hport⟩, port, rival, hleads, hdiffers⟩
    exact .merged hmerges hport hleads hdiffers

variable {p q : Placement} {spot : PortSide} {key : MergeGroupId}

theorem grouped (h : Holds r₀ selected.record.id shown records server) (hr₀ : r₀.WellFormed limits)
    (hshows : ShowsGroups r₀ selected.record.id rows₀)
    (hapart : Apart (r₀.seen selected rows₀) p.slot q.slot)
    (hreach : server.registry.Reaches q p.structureId p.spot) :
    ∃ merge ∈ records, merge.exchange.TakesIn p.slot ∧ merge.exchange.TakesIn q.slot ∧
      ∀ key, groupOf rows₀ p.spot = some key → groupOf rows₀ q.spot ≠ some key := by
  obtain ⟨id, spot, fiber⟩ := p
  obtain ⟨id', spot', fiber'⟩ := q
  obtain ⟨rfl, hside, hport⟩ := hreach
  obtain ⟨hne, hgroups⟩ := hapart rfl
  have hr := h.sound.wellFormed
  rcases hr.eq_or_group_of_mem_fanOut hside hport with hsame | ⟨key, hkey', hkey⟩
  · exact absurd hsame hne
  rcases h.grown.group_cases hr₀ hr hkey with hold | ⟨rfl, ports, ⟨merge, hmem, hmerges⟩, hall⟩
  · -- A group that was there at the start was seen on both ports, and the ports were apart.
    exact absurd (seen_of_group hshows (hold spot' hkey'))
      (hgroups key (seen_of_group hshows (hold spot hkey)))
  · obtain ⟨hside', hport'⟩ := hall spot' hkey'
    refine ⟨merge, hmem, ⟨ports, hmerges, (hall spot hkey).2⟩, ⟨ports, ?_, hport'⟩, ?_⟩
    · simp only [Placement.slot]
      rw [hside']
      exact hmerges
    · simpa only [Placement.slot, seen_selected] using hgroups

theorem concat_place (h : Holds r₀ selected.record.id shown records server)
    (hr₀ : r₀.WellFormed limits) (hshown : shown index rows₀)
    (hshows : ShowsGroups r₀ selected.record.id rows₀)
    (hapart : ∀ p ∈ acceptedOf (exchangesOf index records),
      Apart (r₀.seen selected rows₀) p.slot q.slot) {row : Splice}
    (hplace : server.registry.place q = .ok (row, server'.registry)) (hsound : server'.Sound) :
    Holds r₀ selected.record.id shown
      (records ++ [⟨index, ⟨.place q, .ok row⟩, server⟩]) server' := by
  have hr := h.sound.wellFormed
  have hplaces : Exchange.Places ⟨.place q, .ok row⟩ q := ⟨rfl, rfl⟩
  have honly : ∀ p, Exchange.Places ⟨.place q, .ok row⟩ p → p = q := fun p hp =>
    (Call.place.inj hp.1).symm
  obtain ⟨shown', -, hchange⟩ := hr.place_fiberChange hplace
  refine ⟨hsound, h.frame.trans (Registry.frame_place hplace),
    (h.grown.mono fun _ _ => .concat).sameGroups hchange.groups,
    fun record hmem p hp id spot hreach => ?_, ?_⟩
  · rcases List.mem_append.1 hmem with hmem | hmem
    · exact (h.filled record hmem p hp id spot hreach).place hr hplace
    · obtain rfl := List.mem_singleton.1 hmem
      obtain rfl := honly p hp
      exact (hr.carries_reached hplace (h.grown.reaches hr₀ hr hreach)).filled
  · refine h.kept.concat (fun record hmem p hp hcarries => ?_) fun p hp => ?_
    · by_cases hreach : server.registry.Reaches q p.structureId p.spot
      · by_cases hsame : q.fiber.fiberId = p.fiber.fiberId
        · exact .inl (hsame ▸ hr.carries_reached hplace hreach)
        refine .inr ?_
        by_cases hindex : record.index = index
        · have hpast := hp.mem_acceptedOf (mem_exchangesOf.2 ⟨record, hmem, hindex, rfl⟩)
          obtain ⟨merge, hmerge, htaken, htaken', hunseen⟩ :=
            h.grouped hr₀ hshows (hapart p hpast) hreach
          exact .grouped hindex.symm hplaces hreach hsame hmerge htaken htaken' (hindex ▸ hshown)
            hunseen
        · exact .overwritten (Ne.symm hindex) hplaces hreach hsame
      · refine .inl ?_
        simp only [Registry.Carries]
        rw [hr.endpoint_place_of_not hplace hreach]
        exact hcarries
    · obtain rfl := honly p hp
      exact hr.carries_reached hplace (Registry.reaches_self _ p)

/-! ### What the authority tells -/

theorem listed (h : Holds r₀ selected.record.id shown records server) (hr₀ : r₀.WellFormed limits)
    (index : Nat) (id : StructureId) :
    Listed r₀ selected (exchangesOf index records) id (server.registry.listing id) := by
  have hr := h.sound.wellFormed
  refine ⟨Registry.ascends_listing hr.rowsAt id, fun hkey => ?_, fun hother spot => ?_,
    fun q hq spot hreach => ?_⟩
  · rw [Registry.groupOf_listing hr.rowsAt]
    exact h.grown.group_old hr₀ hr hkey
  · rw [Registry.groupOf_listing hr.rowsAt]
    exact h.grown.group_elsewhere hr₀ hr hother spot
  · obtain ⟨e, he, hplaces⟩ := Exchange.exists_of_mem_acceptedOf hq
    obtain ⟨record, hmem, -, rfl⟩ := mem_exchangesOf.1 he
    exact (h.filled record hmem q hplaces id spot hreach).isOccupied hr.rowsAt

theorem heard_place (h : Holds r₀ selected.record.id shown records server)
    (hr₀ : r₀.WellFormed limits) {row : Splice}
    (hplace : server.registry.place q = .ok (row, server'.registry)) (past : List Exchange) :
    Heard r₀ selected past ⟨.place q, .ok row⟩ := by
  have hr := h.sound.wellFormed
  intro side key hkey
  have hkey := h.grown.group_old hr₀ hr hkey
  obtain ⟨-, hrow, -⟩ := hr.place_eq_ok hplace
  have hport : row.port = q.spot.port := ((hr.place hplace).rowsAt hrow).2.1
  simp only [hport] at hkey
  rw [← hr.group_place hplace, Registry.endpoint] at hkey
  dsimp only at hkey
  rw [hrow] at hkey
  exact hkey

theorem refused (h : Holds r₀ selected.record.id shown records server) (hsound : server'.Sound)
    (hsame : server'.registry = server.registry) (call : Call) (e : Failure)
    (past : List Exchange) :
    Holds r₀ selected.record.id shown (records ++ [⟨index, ⟨call, .error e⟩, server⟩]) server' ∧
      Heard r₀ selected past ⟨call, .error e⟩ := by
  refine ⟨h.concat_same hsound hsame fun p hp => Bool.noConfusion hp.2, ?_⟩
  cases call <;> trivial

theorem performed (h : Holds r₀ selected.record.id shown records server)
    (hr₀ : r₀.WellFormed limits) (hshown : shown index rows₀)
    (hshows : ShowsGroups r₀ selected.record.id rows₀) {call : Call}
    (hasks : Asked (r₀.seen selected rows₀) selected.record.id (exchangesOf index records) call)
    {a : call.Answer}
    (hperform : server.registry.perform server.limits call = .ok (a, server'.registry))
    (hsound : server'.Sound) (hids : server'.registry.ids.Distinct) :
    Holds r₀ selected.record.id shown (records ++ [⟨index, ⟨call, .ok a⟩, server⟩]) server' ∧
      Heard r₀ selected (exchangesOf index records) ⟨call, .ok a⟩ := by
  cases call with
  | portsOf =>
    exact ⟨h.concat_same hsound (Registry.perform_read rfl hperform) (fun p hp => nomatch hp.1),
      trivial⟩
  | fibersOf id =>
    refine ⟨h.concat_same hsound (Registry.perform_read rfl hperform)
      (fun p hp => nomatch hp.1), ?_⟩
    obtain ⟨fibers, hfibers, heq⟩ := map_eq_ok.1 hperform
    obtain ⟨rfl, -⟩ := Prod.mk.inj heq
    exact (Registry.fibersOf_of_frame h.frame id).symm.trans hfibers
  | rowsOf id =>
    obtain ⟨rfl, hsame⟩ := Registry.rowsOf_eq_ok hperform
    exact ⟨h.concat_same hsound hsame (fun p hp => nomatch hp.1), h.listed hr₀ index id⟩
  | place q =>
    exact ⟨h.concat_place hr₀ hshown hshows hasks hperform hsound, h.heard_place hr₀ hperform _⟩
  | merge id ports side =>
    obtain rfl : id = selected.record.id := hasks
    have hframe := Registry.frame_perform hperform
    obtain ⟨⟨key, _⟩, hmerge, heq⟩ := map_eq_ok.1 hperform
    obtain rfl := (Prod.mk.inj heq).2
    have hfresh := h.sound.drawn.next_fresh ((Registry.frame_merge hmerge).distinct hids)
    obtain ⟨-, -, -, rfl, -⟩ := Registry.merge_eq_ok hmerge
    exact ⟨h.concat_merge rfl hmerge hfresh hsound hframe, trivial⟩
  | clear | unmerge | upload => cases hasks

end Holds

/-! ### The schedule -/

def Event.connects : Event → Bool
  | start operation => operation.connects
  | _ => true

def Operation.EndsBeside (operation : Operation) (r₀ : Registry) (selected : SelectedStructure)
    (past : List Exchange) (_ left : Client) (outcome : Outcome) : Prop :=
  Views r₀ selected left ∧ operation.Reports r₀ selected.record.id (acceptedOf past) outcome

theorem Stage.Leaves.views {r₀ : Registry} {selected : SelectedStructure} {rows : List Splice}
    {operation : Operation} {past : List Exchange} {found left : Client} {stage : Stage}
    (h : stage.Leaves (.beside r₀ selected rows)
      (operation.EndsBeside r₀ selected) past found left) :
    Views r₀ selected left := by
  cases stage with
  | ended outcome => exact h.1
  | sent | answered => exact h

structure Beside (r₀ : Registry) (selected : SelectedStructure) (shown : Nat → List Splice → Prop)
    (records : List (Record Server)) (scene : Scene Server) : Prop where
  holds : Holds r₀ selected.record.id shown records scene.authority
  views : Views r₀ selected scene.client
  began : ∀ {index : Nat} {a : Activity}, scene.activities[index]? = some a →
    ∃ rows, shown index rows ∧ ShowsGroups r₀ selected.record.id rows ∧
      a.stage.Abides (.beside r₀ selected rows) (a.operation.EndsBeside r₀ selected)
        (exchangesOf index records)

namespace Beside

open Scene

variable {r₀ : Registry} {selected : SelectedStructure} {shown shown' : Nat → List Splice → Prop}
  {records : List (Record Server)} {scene : Scene Server} {limits : Limits} {index : Nat}
  {operation : Operation}

theorem mono (h : Beside r₀ selected shown records scene)
    (hshown : ∀ index rows, shown index rows → shown' index rows) :
    Beside r₀ selected shown' records scene :=
  ⟨h.holds.mono hshown, h.views, fun hat =>
    let ⟨rows, hrows, habides⟩ := h.began hat
    ⟨rows, hshown _ _ hrows, habides⟩⟩

theorem began_advance (h : Beside r₀ selected shown records scene)
    {records' : List (Record Server)} {stage stage' : Stage} {rows : List Splice}
    (hat : scene.activities[index]? = some ⟨operation, stage⟩)
    (hrecords : ∀ other ≠ index, exchangesOf other records' = exchangesOf other records)
    (hshown : shown index rows) (hshows : ShowsGroups r₀ selected.record.id rows)
    (habides : stage'.Abides (.beside r₀ selected rows) (operation.EndsBeside r₀ selected)
      (exchangesOf index records')) {other : Nat} {a : Activity}
    (hother : (scene.advance index stage').activities[other]? = some a) :
    ∃ rows, shown other rows ∧ ShowsGroups r₀ selected.record.id rows ∧
      a.stage.Abides (.beside r₀ selected rows) (a.operation.EndsBeside r₀ selected)
        (exchangesOf other records') := by
  rw [getElem?_advance] at hother
  by_cases hindex : other = index
  · subst hindex
    rw [if_pos rfl, hat] at hother
    obtain rfl := Option.some.inj hother
    exact ⟨rows, hshown, hshows, habides⟩
  · rw [if_neg hindex] at hother
    rw [hrecords other hindex]
    exact h.began hother

theorem started (h : Beside r₀ selected shown records scene) (hr₀ : r₀.WellFormed limits)
    (hfresh : exchangesOf scene.activities.length records = [])
    (hconnects : operation.connects = true)
    (hshown : shown scene.activities.length scene.client.editor.rows) :
    Beside r₀ selected shown records { scene with
      client := (Stage.ofProgress (operation.job scene.client)).2
      activities := scene.activities ++
        [⟨operation, (Stage.ofProgress (operation.job scene.client)).1⟩] } := by
  have habides : (operation.job scene.client).Abides
      (.beside r₀ selected scene.client.editor.rows) (operation.EndsBeside r₀ selected) []
      scene.client := abides_connects hr₀ hconnects h.views
  obtain ⟨habides, hleaves⟩ := Stage.abides_ofProgress habides
  refine ⟨h.holds, hleaves.views, fun {index a} hat => ?_⟩
  rw [getElem?_started] at hat
  split at hat
  next hnew =>
    obtain rfl := Option.some.inj hat
    rw [hnew, hfresh]
    exact ⟨_, hshown, h.views.groups, habides⟩
  next => exact h.began hat

theorem resumed (h : Beside r₀ selected shown records scene) {call : Call}
    {answer : Except Failure call.Answer}
    {resume : Except Failure call.Answer → Client → Progress Outcome}
    (htold : scene.activities[index]? = some ⟨operation, .answered call answer resume⟩) :
    Beside r₀ selected shown records
      ({ scene with client := (Stage.ofProgress (resume answer scene.client)).2 }.advance index
        (Stage.ofProgress (resume answer scene.client)).1) := by
  obtain ⟨rows, hshown, hshows, hanswered⟩ := h.began htold
  obtain ⟨habides, hleaves⟩ := Stage.abides_ofProgress (hanswered scene.client h.views)
  exact ⟨h.holds, hleaves.views, h.began_advance htold (fun _ _ => rfl) hshown hshows habides⟩

theorem answered (h : Beside r₀ selected shown records scene) {call : Call}
    {resume : Except Failure call.Answer → Client → Progress Outcome}
    (hsent : scene.activities[index]? = some ⟨operation, .sent call resume⟩)
    {answer : Except Failure call.Answer} {s : Server}
    (hholds : ∀ rows, shown index rows → ShowsGroups r₀ selected.record.id rows →
      Asked (r₀.seen selected rows) selected.record.id (exchangesOf index records) call →
        Holds r₀ selected.record.id shown
            (records ++ [⟨index, ⟨call, answer⟩, scene.authority⟩]) s ∧
          Heard r₀ selected (exchangesOf index records) ⟨call, answer⟩) :
    Beside r₀ selected shown (records ++ [⟨index, ⟨call, answer⟩, scene.authority⟩])
      ({ scene with authority := s }.advance index (.answered call answer resume)) := by
  obtain ⟨rows, hshown, hshows, hasks, hwaiting⟩ := h.began hsent
  obtain ⟨hholds, hheard⟩ := hholds rows hshown hshows hasks
  refine ⟨hholds, h.views, h.began_advance hsent (fun other hne => ?_) hshown hshows ?_⟩
  · rw [exchangesOf_concat, if_neg (Ne.symm hne), List.append_nil]
  · rw [exchangesOf_concat, if_pos rfl]
    exact hwaiting answer hheard

theorem step (h : Beside r₀ selected shown records scene) (hr₀ : r₀.WellFormed limits)
    (hfresh : exchangesOf scene.activities.length records = [])
    (hshown : ∀ index rows, shown index rows → shown' index rows) {event : Event}
    (hconnects : event.connects = true)
    (hbegan : ∀ operation, event = .start operation →
      shown' scene.activities.length scene.client.editor.rows)
    (hids : (scene.step Server.answer event).authority.registry.ids.Distinct) :
    Beside r₀ selected shown' (records ++ (scene.record? Server.answer event).toList)
      (scene.step Server.answer event) := by
  have h := h.mono hshown
  have hchange := changes Server.answer scene event
  generalize scene.record? Server.answer event = record at hchange ⊢
  generalize scene.step Server.answer event = scene' at hchange hids ⊢
  cases hchange with
  | idle =>
    rw [Option.toList_none, List.append_nil]
    exact h
  | started operation =>
    rw [Option.toList_none, List.append_nil]
    exact h.started hr₀ hfresh hconnects (hbegan operation rfl)
  | resumed htold =>
    rw [Option.toList_none, List.append_nil]
    obtain ⟨operation, htold⟩ := stage?_eq_some htold
    exact h.resumed htold
  | answered answer s hsent hserved =>
    obtain ⟨operation, hsent⟩ := stage?_eq_some hsent
    refine h.answered hsent fun rows hrows hshows hasks => ?_
    rcases hserved with ⟨-, hanswer⟩ | ⟨e, -, rfl, rfl⟩
    · obtain ⟨hlimits, ⟨⟨e, herror⟩, hsame⟩ | ⟨a, hok, hperform⟩⟩ :=
        Server.answer_cases scene.authority _
      · rw [hanswer] at hlimits herror hsame
        obtain rfl : answer = .error e := herror
        exact h.holds.refused (h.holds.sound.of_same hlimits hsame) hsame _ e _
      · rw [hanswer] at hlimits hok hperform
        obtain rfl : answer = .ok a := hok
        exact h.holds.performed hr₀ hrows hshows hasks hperform
          (h.holds.sound.of_perform hlimits hperform hids) hids
    · exact h.holds.refused h.holds.sound rfl _ e _

end Beside

namespace Scene

theorem frame_step (scene : Scene Server) (event : Event) :
    scene.authority.registry.Frame (scene.step Server.answer event).authority.registry := by
  have hchange := changes Server.answer scene event
  generalize scene.record? Server.answer event = record at hchange
  generalize scene.step Server.answer event = scene' at hchange ⊢
  cases hchange with
  | idle | started | resumed => exact .refl _
  | @answered _ _ call _ answer s _ hserved =>
    rcases hserved with ⟨-, hanswer⟩ | ⟨e, -, rfl, rfl⟩
    · have hframe := Server.frame_answer scene.authority call
      rw [hanswer] at hframe
      exact hframe
    · exact .refl _

variable {start : Scene Server} {selected : SelectedStructure}

theorem beside_start (hidle : start.activities = []) (hstep : InStep start.client start.authority)
    (hselected : start.client.editor.selected = some selected) :
    Beside start.authority.registry selected (start.ShownAt Server.answer []) [] start := by
  have hr := hstep.sound.wellFormed
  have hrows : start.client.editor.rows =
      start.authority.registry.listing selected.record.id := by
    rw [hstep.rows, Editor.structureId, hselected]
    rfl
  refine ⟨⟨hstep.sound, .refl _, .refl _ _, fun _ hmem => absurd hmem List.not_mem_nil,
    fun before record after p heq => ?_⟩, ⟨hselected, ?_, fun hkey => ?_⟩,
    fun hat => ?_⟩
  · cases before <;> cases heq
  · rw [hrows]
    exact Registry.ascends_listing hr.rowsAt _
  · rw [hrows, Registry.groupOf_listing hr.rowsAt]
    exact hkey
  · rw [hidle] at hat
    cases hat

theorem beside_run (hidle : start.activities = []) (hstep : InStep start.client start.authority)
    (hselected : start.client.editor.selected = some selected) (schedule : List Event)
    (hconnects : ∀ event ∈ schedule, event.connects = true)
    (hids : (start.run Server.answer schedule).authority.registry.ids.Distinct) :
    Beside start.authority.registry selected (start.ShownAt Server.answer schedule)
      (start.records Server.answer schedule) (start.run Server.answer schedule) := by
  induction schedule using List.reverseRecOn with
  | nil => exact beside_start hidle hstep hselected
  | append_singleton schedule event ih =>
    rw [run_concat] at hids ⊢
    rw [records_concat]
    have hbefore := ih (fun event hmem => hconnects event (List.mem_append_left _ hmem))
      ((frame_step _ event).distinct hids)
    have hevent := hconnects event (List.mem_append_right _ (List.mem_singleton_self _))
    refine hbefore.step hstep.sound.wellFormed (fresh_run ..)
      (fun _ _ h => h.concat event) hevent ?_ hids
    rintro operation rfl
    exact ⟨schedule, operation, [], rfl, rfl, rfl⟩

/-- In every schedule of drops, fills and merges, whichever calls fail: a reported connection was
accepted by the authority, and an accepted fiber is on its port in the end or there is a record of
what has displaced it. -/
theorem kept_or_displaced (start : Scene Server) (selected : SelectedStructure)
    (hidle : start.activities = []) (hstep : InStep start.client start.authority)
    (hselected : start.client.editor.selected = some selected) (schedule : List Event)
    (hconnects : ∀ event ∈ schedule, event.connects = true)
    (hids : (start.run Server.answer schedule).authority.registry.ids.Distinct) :
    let scene := start.run Server.answer schedule
    let records := start.records Server.answer schedule
    (∀ (index : Nat) (operation : Operation) (outcome : Outcome),
      scene.activities[index]? = some ⟨operation, .ended outcome⟩ →
        operation.Reports start.authority.registry selected.record.id
          (acceptedOf (exchangesOf index records)) outcome) ∧
    Kept (start.ShownAt Server.answer schedule) records scene.authority.registry := by
  have h := beside_run hidle hstep hselected schedule hconnects hids
  refine ⟨fun index operation outcome hat => ?_, h.holds.kept⟩
  obtain ⟨rows, -, -, found, left, -, hreports⟩ := h.began hat
  exact hreports

def isFree (scene : Scene Server) (id : StructureId) (spot : PortSide) : Bool :=
  (scene.authority.registry.endpoint id spot).isVacant &&
    !isOccupied scene.client.editor.rows spot && (groupOf scene.client.editor.rows spot).isNone

/-- Drops of a fiber and merges are started on free ports only. -/
def startsFree (id : StructureId) (scene : Scene Server) : List Event → Bool
  | [] => true
  | event :: schedule =>
    (match event with
      | .start (.dropFiber spot _) => scene.isFree id spot
      | .start .mergeSelected => scene.client.editor.selection.all (scene.isFree id)
      | _ => true) && startsFree id (scene.step Server.answer event) schedule

def smallBundle (count : UInt32) : Operation :=
  .dropBundle ⟨1, .a⟩ ⟨⟨⟨3⟩⟩, "cable", 1, "blue",
    (List.range count.toNat).map fun n => Server.smallFiber (n.toUInt32 + 1)⟩

def smallChoice : List Event :=
  [.start .toggleMergeMode, .start (.togglePort ⟨2, .a⟩), .start (.togglePort ⟨3, .a⟩)]

def served (index : Nat) : List Event :=
  [.serve index, .deliver index]

def overwriting : List Event :=
  [.start (smallBundle 2), .start (.dropFiber ⟨2, .a⟩ ⟨Server.smallFiber 3, "cable"⟩)] ++
    [1, 0, 0].flatMap served

def mergingLate : List Event :=
  smallChoice ++ [.start (smallBundle 2), .start .mergeSelected,
    .start (.dropFiber ⟨3, .a⟩ ⟨Server.smallFiber 3, "cable"⟩)] ++ [5, 3, 3, 4, 4].flatMap served

def mergingAhead : List Event :=
  smallChoice ++ [.start (smallBundle 3), .start .mergeSelected] ++
    [4, 4, 3, 3, 3, 3, 3].flatMap served

/-- No call fails, all ports are free when they are chosen, and a fiber that was reported to be
connected is nowhere in the end: a fill or a merge has displaced it. -/
theorem displaced_in_small_runs :
    let start := Overlap.smallStart
    let id := Server.smallTray.id
    InStep start.client start.authority ∧ start.activities = [] ∧
      ∀ run ∈ [(overwriting, 1, Outcome.flag true, Server.smallFiber 3),
          (mergingLate, 5, Outcome.flag true, Server.smallFiber 3),
          (mergingAhead, 3, Outcome.fill (.connected ⟨3, 3, [id]⟩), Server.smallFiber 2)],
        let scene := start.run Server.answer run.1
        (∀ event ∈ run.1, event.connects = true) ∧ startsFree id start run.1 = true ∧
        (∀ record ∈ start.records Server.answer run.1, record.exchange.succeeded = true) ∧
        (∀ a ∈ scene.activities, a.stage.outcome?.isSome) ∧
        (scene.stage? run.2.1).bind Stage.outcome? = some run.2.2.1 ∧
        ∀ row ∈ scene.authority.registry.rows.values, ∀ side ∈ [Side.a, Side.b],
          (row.fiber side).map (·.fiberId) ≠ some run.2.2.2.id :=
  ⟨Overlap.inStep_smallStart, rfl, by decide +kernel⟩

theorem displaced_by_own_fill :
    let start := Overlap.smallStart
    let records := start.records Server.answer mergingAhead
    let p : Placement := ⟨Server.smallTray.id, ⟨2, .a⟩, (Server.smallFiber 2).ref⟩
    (acceptedOf (exchangesOf 3 records)).length = 3 ∧
      ∃ before record after, records = before ++ record :: after ∧ record.exchange.Places p ∧
        ∃ later ∈ after,
          Displaces (start.ShownAt Server.answer mergingAhead) records record p later := by
  intro start records p
  have hsplit :
      records = records.take 3 ++ records.get ⟨3, by decide +kernel⟩ :: records.drop 4 := by
    rw [List.get_eq_getElem, ← List.drop_eq_getElem_cons, List.take_append_drop]
  have hplaces : (records.get ⟨3, by decide +kernel⟩).exchange.Places p :=
    ⟨by decide +kernel, by decide +kernel⟩
  have hselected : start.client.editor.selected.isSome = true := by decide +kernel
  obtain ⟨-, hkept⟩ := kept_or_displaced start _ rfl Overlap.inStep_smallStart
    (Option.some_get hselected).symm mergingAhead (by decide +kernel) (by decide +kernel)
  have hdisplaced := (hkept _ _ _ p hsplit hplaces).resolve_left (by decide +kernel)
  exact ⟨by decide +kernel, _, _, _, hsplit, hplaces, hdisplaced⟩

end Scene

end CrossConnect
