import CrossConnect.Proofs.Client.Exclusion
import CrossConnect.Proofs.Client.FillRun
import CrossConnect.Proofs.Registry.Relisted

/-!
Fills with their input listed in another way. Fibers and structures are sorted before use, so
another order makes the same job; a cable by reference makes one more call, which finds the same
fibers, sorted once more on their way.
-/
namespace CrossConnect

/-! ### Stable sorting -/

section sorting

variable {α : Type} {le le' : α → α → Bool}

theorem sortBy_eq_of_perm (total : ∀ a b, le a b || le b a)
    (trans : ∀ a b c, le a b → le b c → le a c) {as bs : List α} (h : as.Perm bs)
    (hties : ∀ a ∈ as, ∀ b ∈ as, le a b = true → le b a = true → a = b) :
    sortBy le as = sortBy le bs := by
  have hperm : (sortBy le as).Perm (sortBy le bs) :=
    (sortBy_perm le as).trans (h.trans (sortBy_perm le bs).symm)
  refine hperm.eq_of_pairwise (fun a b ha hb hab hba => ?_) (pairwise_sortBy total trans as)
    (pairwise_sortBy total trans bs)
  exact hties a ((mem_sortBy le).1 ha) b (h.mem_iff.2 ((mem_sortBy le).1 hb)) hab hba

theorem insertBy_comm (trans : ∀ a b c, le a b → le b c → le a c) {a b : α} (hab : le a b = true)
    (hba : le b a = false) (as : List α) :
    insertBy le a (insertBy le b as) = insertBy le b (insertBy le a as) := by
  induction as with
  | nil => simp [insertBy, hab, hba]
  | cons x as ih =>
    by_cases hb : le b x = true
    · have ha := trans a b x hab hb
      simp [insertBy, hab, hba, ha, hb]
    · by_cases ha : le a x = true
      · simp [insertBy, hba, ha, hb]
      · simp [insertBy, ha, hb, ih]

theorem sortBy_insertBy (total : ∀ a b, le a b || le b a)
    (trans : ∀ a b c, le a b → le b c → le a c)
    (hfiner : ∀ a b, le' a b = false → le a b = true → le b a = false) (a : α) (as : List α) :
    sortBy le (insertBy le' a as) = insertBy le a (sortBy le as) := by
  induction as with
  | nil => rfl
  | cons b as ih =>
    by_cases h : le' a b = true
    · simp only [insertBy, h, if_true]
      rfl
    · simp only [insertBy, h]
      change insertBy le b (sortBy le (insertBy le' a as)) =
        insertBy le a (insertBy le b (sortBy le as))
      rw [ih]
      -- By the finer order `a` comes after `b`; by `le` it may have to go back before it.
      cases hab : le a b with
      | true => exact (insertBy_comm trans hab (hfiner a b (by simpa using h) hab) _).symm
      | false =>
        have hba : le b a = true := by simpa [hab] using total a b
        exact insertBy_comm trans hba hab _

theorem sortBy_sortBy (total : ∀ a b, le a b || le b a) (trans : ∀ a b c, le a b → le b c → le a c)
    (hfiner : ∀ a b, le' a b = false → le a b = true → le b a = false) (as : List α) :
    sortBy le (sortBy le' as) = sortBy le as := by
  induction as with
  | nil => rfl
  | cons a as ih =>
    change sortBy le (insertBy le' a (sortBy le' as)) = insertBy le a (sortBy le as)
    rw [sortBy_insertBy total trans hfiner, ih]

end sorting

namespace Fiber

theorem dropOrder_iff (f g : Fiber) : dropOrder f g = true ↔
    f.bundle < g.bundle ∨ f.bundle = g.bundle ∧ f.absolute ≤ g.absolute := by
  simp [dropOrder]

theorem dropOrder_total (f g : Fiber) : dropOrder f g || dropOrder g f := by
  simp only [Bool.or_eq_true, dropOrder_iff, UInt32.lt_iff_toNat_lt, UInt32.le_iff_toNat_le,
    ← UInt32.toNat_inj]
  omega

theorem dropOrder_trans (f g h : Fiber) (hfg : dropOrder f g) (hgh : dropOrder g h) :
    dropOrder f h := by
  simp only [dropOrder_iff, UInt32.lt_iff_toNat_lt, UInt32.le_iff_toNat_le, ← UInt32.toNat_inj] at *
  omega

theorem sortByAbsolute_of_perm {fibers fibers' : List Fiber} (h : fibers.Perm fibers')
    (hties : NoTies absolute fibers) : sortByAbsolute fibers = sortByAbsolute fibers' := by
  refine sortBy_eq_of_perm (le_number_total absolute) (le_number_trans absolute) h
    fun f hf g hg hfg hgf => ?_
  exact hties f hf g hg (UInt32.le_antisymm (of_decide_eq_true hfg) (of_decide_eq_true hgf))

theorem sortByBundle_of_perm {fibers fibers' : List Fiber} (h : fibers.Perm fibers')
    (hties : NoTies (fun f => (f.bundle, f.absolute)) fibers) :
    sortByBundle fibers = sortByBundle fibers' := by
  refine sortBy_eq_of_perm dropOrder_total dropOrder_trans h fun f hf g hg hfg hgf => ?_
  refine hties f hf g hg ?_
  rw [dropOrder_iff, UInt32.lt_iff_toNat_lt, UInt32.le_iff_toNat_le, ← UInt32.toNat_inj] at hfg hgf
  simp only [Prod.mk.injEq, ← UInt32.toNat_inj]
  omega

theorem sortByBundle_sortByAbsolute (fibers : List Fiber) :
    sortByBundle (sortByAbsolute fibers) = sortByBundle fibers := by
  refine sortBy_sortBy dropOrder_total dropOrder_trans (fun f g hfg hle => ?_) fibers
  rw [Bool.eq_false_iff, ne_eq, dropOrder_iff]
  rw [dropOrder_iff] at hle
  rw [decide_eq_false_iff_not] at hfg
  simp only [UInt32.lt_iff_toNat_lt, UInt32.le_iff_toNat_le, ← UInt32.toNat_inj] at *
  omega

end Fiber

/-! ### Jobs -/

namespace Client

theorem laterStructures_of_perm (settings : ClientSettings) (selected : Structure)
    {structures structures' : List Structure} (h : structures.Perm structures')
    (hties : NoTies Structure.slotStart structures) :
    laterStructures settings selected structures =
      laterStructures settings selected structures' := by
  have hsort : ∀ keep : Structure → Bool,
      sortBy (fun t u => decide (t.slotStart ≤ u.slotStart)) (structures.filter keep) =
        sortBy (fun t u => decide (t.slotStart ≤ u.slotStart)) (structures'.filter keep) := by
    refine fun keep => sortBy_eq_of_perm (le_number_total Structure.slotStart)
      (le_number_trans Structure.slotStart) (h.filter keep) fun t ht u hu htu hut => ?_
    exact hties t (List.mem_of_mem_filter ht) u (List.mem_of_mem_filter hu)
      (UInt32.le_antisymm (of_decide_eq_true htu) (of_decide_eq_true hut))
  simp only [laterStructures, hsort]

theorem dropBundle_of_perm (start : PortSide) (b : Bundle) {fibers : List Fiber}
    (h : b.fibers.Perm fibers) (hties : NoTies Fiber.absolute b.fibers) :
    dropBundle start b = dropBundle start { b with fibers } := by
  simp only [dropBundle, Fiber.sortByAbsolute_of_perm h hties, h.isEmpty_eq]

theorem dropCable_of_perm (start : PortSide) (cable : Cable) {fibers : List Fiber}
    (structures : List Structure) (h : cable.fibers.Perm fibers)
    (hties : NoTies (fun f => (f.bundle, f.absolute)) cable.fibers) :
    dropCable start cable structures = dropCable start { cable with fibers } structures := by
  have hfibers : cableFibers cable = cableFibers { cable with fibers } := by
    simp only [cableFibers, h.isEmpty_eq]
    split
    · rfl
    · simp only [pure_bind, Fiber.sortByBundle_of_perm h hties]
  simp only [dropCable, hfibers]

theorem dropCable_of_structures_perm (start : PortSide) (cable : Cable)
    {structures structures' : List Structure} (h : structures.Perm structures')
    (hties : NoTies Structure.slotStart structures) :
    dropCable start cable structures = dropCable start cable structures' := by
  simp only [dropCable, fun settings selected => laterStructures_of_perm settings selected h hties]

theorem cableFibers_by_reference {α : Type} (cable : Cable) (hsome : cable.fibers.isEmpty = false)
    (next : Except Failure (List Fiber) → Job α) (c : Client) :
    ∃ resume, ((cableFibers { cable with fibers := [] }).run >>= next) c =
        .waits c (.fibersOf cable.id) resume ∧
      ∀ fetched, Fiber.sortByBundle fetched = Fiber.sortByBundle cable.fibers →
        resume (.ok fetched) c = ((cableFibers cable).run >>= next) c := by
  refine ⟨_, rfl, fun fetched hfetched => ?_⟩
  have hcarried : cableFibers cable = pure (Fiber.sortByBundle cable.fibers) := by
    rw [cableFibers, if_neg (Bool.eq_false_iff.1 hsome), pure_bind]
  rw [hcarried, ← hfetched]
  rfl

theorem dropCable_by_reference (start : PortSide) (cable : Cable) (structures : List Structure)
    (hsome : cable.fibers.isEmpty = false) (c : Client) :
    dropCable start { cable with fibers := [] } structures c = dropCable start cable structures c ∨
      ∃ resume, dropCable start { cable with fibers := [] } structures c =
          .waits c.occupied (.fibersOf cable.id) resume ∧
        ∀ fetched, Fiber.sortByBundle fetched = Fiber.sortByBundle cable.fibers →
          resume (.ok fetched) c.occupied = dropCable start cable structures c := by
  cases htaken : c.slot.taken with
  | true =>
    exact .inl (by rw [dropCable, dropCable, exclusively_taken htaken, exclusively_taken htaken])
  | false =>
    rw [dropCable, dropCable, exclusively_free htaken, exclusively_free htaken]
    rw [Job.client_bind, Job.client_bind]
    dsimp only
    cases hselected : c.occupied.editor.selected with
    | none => exact .inl rfl
    | some selected =>
      cases htarget : localTarget c.occupied.editor start with
      | none => exact .inl rfl
      | some target =>
        dsimp only
        cases hports : target.ports.isEmpty with
        | true => exact .inl rfl
        | false =>
          obtain ⟨resume, hwaits, hresume⟩ := cableFibers_by_reference cable hsome _ c.occupied
          refine .inr ⟨_, congrArg (Progress.bind · _) hwaits, fun fetched hfetched => ?_⟩
          exact congrArg (Progress.bind · _) (hresume fetched hfetched)

end Client

/-! ### Runs -/

def writesOf (exchanges : List Exchange) : List Exchange :=
  exchanges.filter (·.call.isWrite)

namespace Server

/-- The authority, where calls can get lost; whether one does goes by the writes before it. -/
def unsteady (loses : List Exchange → Call → Option Failure) : Authority (Server × List Exchange) :=
  Authority.lossy (fun exchanges => loses (writesOf exchanges)) answer

variable {loses : List Exchange → Call → Option Failure} {line line' : Server × List Exchange}

structure Level (line line' : Server × List Exchange) : Prop where
  registry : line'.1.registry = line.1.registry
  limits : line'.1.limits = line.1.limits
  failpoints : line'.1.failpoints = line.1.failpoints
  writes : writesOf line'.2 = writesOf line.2

theorem Level.answer (loses : List Exchange → Call → Option Failure) (h : Level line line')
    (call : Call) :
    (unsteady loses line' call).1 = (unsteady loses line call).1 ∧
      Level (unsteady loses line call).2 (unsteady loses line' call).2 := by
  obtain ⟨s, exchanges⟩ := line
  obtain ⟨s', exchanges'⟩ := line'
  obtain ⟨hregistry, hlimits, hfailpoints, hwrites⟩ := h
  dsimp only at hregistry hlimits hfailpoints hwrites
  have hrecord : ∀ answer : Except Failure call.Answer,
      writesOf (exchanges' ++ [⟨call, answer⟩]) = writesOf (exchanges ++ [⟨call, answer⟩]) := by
    intro answer
    simp only [writesOf, List.filter_append] at hwrites ⊢
    rw [hwrites]
  simp only [unsteady, Authority.lossy, hwrites]
  cases loses (writesOf exchanges) call with
  | some failure => exact ⟨rfl, hregistry, hlimits, hfailpoints, hrecord _⟩
  | none =>
    simp only [Server.answer, failpointFor, hfailpoints, hregistry, hlimits]
    cases call.failpointKeys.find? (· ∈ s.failpoints) with
    | some key => exact ⟨rfl, rfl, rfl, rfl, hrecord _⟩
    | none =>
      cases s.registry.perform s.limits call with
      | error e => exact ⟨rfl, rfl, rfl, rfl, hrecord _⟩
      | ok out => exact ⟨rfl, rfl, rfl, rfl, hrecord _⟩

theorem Level.read (loses : List Exchange → Call → Option Failure) (line : Server × List Exchange)
    {call : Call} (hread : call.isWrite = false) : Level line (unsteady loses line call).2 := by
  have hrecord : ∀ answer : Except Failure call.Answer,
      writesOf (line.2 ++ [⟨call, answer⟩]) = writesOf line.2 := by
    intro answer
    rw [writesOf, List.filter_append, List.filter_cons_of_neg (by simpa using hread),
      List.filter_nil, List.append_nil]
    rfl
  simp only [unsteady, Authority.lossy]
  cases loses (writesOf line.2) call with
  | some failure => exact ⟨rfl, rfl, rfl, hrecord _⟩
  | none =>
    simp only [Server.answer]
    split
    · exact ⟨rfl, rfl, rfl, hrecord _⟩
    · split
      next hperform => exact ⟨Registry.perform_read hread hperform, rfl, rfl, hrecord _⟩
      next => exact ⟨rfl, rfl, rfl, hrecord _⟩

theorem Level.run {α : Type} (h : Level line line') (p : Progress α) :
    ∃ value left last last', p.run (unsteady loses) line = (value, left, last) ∧
      p.run (unsteady loses) line' = (value, left, last') ∧ Level last last' := by
  induction p generalizing line line' with
  | done left value => exact ⟨value, left, line, line', rfl, rfl, h⟩
  | waits left call resume ih =>
    obtain ⟨hanswer, hlevel⟩ := h.answer loses call
    simp only [Progress.run, hanswer]
    exact ih _ left hlevel

end Server

/-! ### Input in another order -/

/-- The same freight listed in another way: its fibers or structures in another order where nothing
ties, or a cable of the registry, which may hold numbers twice, by reference. -/
inductive Freight.Recast (r : Registry) : Freight → Freight → Prop
  | bundle (b : Bundle) {fibers : List Fiber} (perm : b.fibers.Perm fibers)
      (distinct : NoTies Fiber.absolute b.fibers) : Recast r (.bundle b) (.bundle { b with fibers })
  | cable (k : Cable) {fibers : List Fiber} (structures : List Structure)
      (perm : k.fibers.Perm fibers) (distinct : NoTies (fun f => (f.bundle, f.absolute)) k.fibers) :
      Recast r (.cable k structures) (.cable { k with fibers } structures)
  | structures (k : Cable) {structures structures' : List Structure}
      (perm : structures.Perm structures') (distinct : NoTies Structure.slotStart structures) :
      Recast r (.cable k structures) (.cable k structures')
  | reference {k stored : Cable} (structures : List Structure)
      (found : r.cables.find? k.id = some stored)
      (fibers : k.fibers = stored.fibers ∨ k.fibers = Fiber.sortByAbsolute stored.fibers) :
      Recast r (.cable k structures) (.cable { k with fibers := [] } structures)

/-- What a fill comes to: its outcome, the client, the registry, and the writes with their
answers. -/
def broughtAbout {α : Type} : α × Client × Server × List Exchange →
    α × Client × Registry × List Exchange
  | (value, left, s, exchanges) => (value, left, s.registry, writesOf exchanges)

section recast

variable {loses : List Exchange → Call → Option Failure} {c : Client} {s : Server}

theorem Server.Level.broughtAbout_eq {α : Type} {line line' : Server × List Exchange}
    (h : Level line line') (p : Progress α) :
    broughtAbout (p.run (unsteady loses) line') = broughtAbout (p.run (unsteady loses) line) := by
  obtain ⟨value, left, last, last', hrun, hrun', hlevel⟩ := h.run p
  rw [hrun, hrun', broughtAbout, broughtAbout, hlevel.registry, hlevel.writes]

theorem Server.fetched_of_succeeded {cable : CableId} {stored : Cable}
    {answer : Except Failure (List Fiber)}
    (hfound : s.registry.cables.find? cable = some stored)
    (hanswer : (unsteady loses (s, []) (.fibersOf cable)).1 = answer)
    (hread : Exchange.succeeded ⟨.fibersOf cable, answer⟩ = true) :
    answer = .ok (Fiber.sortByAbsolute stored.fibers) := by
  subst hanswer
  obtain ⟨-, -, ⟨⟨e, herror⟩, -⟩ | ⟨fibers, hok, hperform⟩⟩ :=
    lossy_cases (fun exchanges => loses (writesOf exchanges)) (s, []) (.fibersOf cable)
  · simp only [unsteady, herror, Exchange.succeeded, Exchange.failure?] at hread
    cases hread
  · simp only [Registry.perform, Registry.fibersOf, Registry.cable?, hfound] at hperform
    obtain rfl := (Prod.mk.inj (Except.ok.inj hperform)).1
    exact hok

theorem Server.broughtAbout_fetched {α : Type} {left : Client} {stored : Cable} {cable : CableId}
    {resume : Except Failure (List Fiber) → Client → Progress α} {p : Progress α}
    (hfound : s.registry.cables.find? cable = some stored)
    (hresume : resume (.ok (Fiber.sortByAbsolute stored.fibers)) left = p)
    (hreads : ∀ e ∈ ((Progress.waits left (.fibersOf cable) resume).run (unsteady loses)
      (s, [])).2.2.2, e.call.isWrite = false → e.succeeded = true) :
    broughtAbout ((Progress.waits left (.fibersOf cable) resume).run (unsteady loses) (s, [])) =
      broughtAbout (p.run (unsteady loses) (s, [])) := by
  subst hresume
  -- The job may do anything with the answer, so it is not looked at before it is known to be a
  -- success.
  generalize hanswer : (unsteady loses (s, []) (.fibersOf cable)).1 = answer
  have hrun : (Progress.waits left (.fibersOf cable) resume).run (unsteady loses) (s, []) =
      (resume answer left).run (unsteady loses) (unsteady loses (s, []) (.fibersOf cable)).2 := by
    rw [← hanswer]
    rfl
  have hfirst : ⟨.fibersOf cable, answer⟩ ∈ (unsteady loses (s, []) (.fibersOf cable)).2.2 := by
    rw [← hanswer]
    exact List.mem_append_right [] (List.mem_singleton_self _)
  rw [hrun] at hreads ⊢
  have hinitial : (unsteady loses (s, []) (.fibersOf cable)).2.2 <+: ((resume answer left).run
      (unsteady loses) (unsteady loses (s, []) (.fibersOf cable)).2).2.2.2 := prefix_progress _ _
  rw [fetched_of_succeeded hfound hanswer (hreads _ (hinitial.subset hfirst) rfl)]
  exact (Level.read loses (s, []) rfl).broughtAbout_eq _

theorem broughtAbout_by_reference {cable stored : Cable} (start : PortSide)
    (structures : List Structure) (hfound : s.registry.cables.find? cable.id = some stored)
    (hsome : cable.fibers.isEmpty = false)
    (hsorted : Fiber.sortByBundle (Fiber.sortByAbsolute stored.fibers) =
      Fiber.sortByBundle cable.fibers)
    (hreads : ∀ e ∈ ((Operation.dropCable start { cable with fibers := [] } structures).job.run
      (Server.unsteady loses) c (s, [])).2.2.2, e.call.isWrite = false → e.succeeded = true) :
    broughtAbout ((Operation.dropCable start { cable with fibers := [] } structures).job.run
        (Server.unsteady loses) c (s, [])) =
      broughtAbout ((Operation.dropCable start cable structures).job.run (Server.unsteady loses) c
        (s, [])) := by
  rcases Client.dropCable_by_reference start cable structures hsome c with
    hsame | ⟨resume, hwaits, hresume⟩
  · have hjob : (Operation.dropCable start { cable with fibers := [] } structures).job c =
        (Operation.dropCable start cable structures).job c := congrArg (Progress.bind · _) hsame
    exact congrArg (fun p => broughtAbout (Progress.run (Server.unsteady loses) p (s, []))) hjob
  · have hjob : (Operation.dropCable start { cable with fibers := [] } structures).job c =
        (Progress.waits c.occupied (.fibersOf cable.id) resume).bind _ :=
      congrArg (Progress.bind · _) hwaits
    have hrest := congrArg (Progress.bind · fun outcome c => .done c (Outcome.fill outcome))
      (hresume _ hsorted)
    simp only [Job.run, hjob, Progress.bind] at hreads ⊢
    exact Server.broughtAbout_fetched hfound hrest hreads

/-- However a fill has its input listed, it comes to the same end by the same writes, as long as no
call that reads fails. -/
theorem fill_as_listed (loses : List Exchange → Call → Option Failure) (c : Client) (s : Server)
    (start : PortSide) {freight freight' : Freight} (h : freight.Recast s.registry freight')
    (hreads : ∀ e ∈ ((freight'.operation start).job.run (Server.unsteady loses) c (s, [])).2.2.2,
      e.call.isWrite = false → e.succeeded = true) :
    broughtAbout ((freight'.operation start).job.run (Server.unsteady loses) c (s, [])) =
      broughtAbout ((freight.operation start).job.run (Server.unsteady loses) c (s, [])) := by
  cases h with
  | bundle b perm distinct =>
    simp only [Freight.operation, Operation.job, Client.dropBundle_of_perm start b perm distinct]
  | cable k structures perm distinct =>
    simp only [Freight.operation, Operation.job,
      Client.dropCable_of_perm start k structures perm distinct]
  | structures k perm distinct =>
    simp only [Freight.operation, Operation.job,
      Client.dropCable_of_structures_perm start k perm distinct]
  | @reference k stored structures found fibers =>
    cases hsome : k.fibers.isEmpty with
    | true => rw [← List.isEmpty_iff.1 hsome]
    | false =>
      have hsorted : Fiber.sortByBundle (Fiber.sortByAbsolute stored.fibers) =
          Fiber.sortByBundle k.fibers := by
        rcases fibers with fibers | fibers
        · rw [fibers, Fiber.sortByBundle_sortByAbsolute]
        · rw [fibers]
      exact broughtAbout_by_reference start structures found hsome hsorted hreads

end recast

namespace Session

def stored : Cable :=
  (spilling.server.registry.cables.find? ⟨⟨3⟩⟩).getD ⟨⟨⟨3⟩⟩, "cable", []⟩

theorem fill_by_reference :
    let loses : List Exchange → Call → Option Failure := fun writes _ =>
      if writes.length = 4 then some .noFibers else none
    let carried : Freight := .cable stored [secondTray, Server.smallTray]
    let reference : Freight := .cable { stored with fibers := [] } [secondTray, Server.smallTray]
    let out := (carried.operation ⟨1, .a⟩).job.run (Server.unsteady loses) spilling.client
      (spilling.server, [])
    let out' := (reference.operation ⟨1, .a⟩).job.run (Server.unsteady loses) spilling.client
      (spilling.server, [])
    out'.1 = .fill (.partiallyConnected ⟨4, 6, [Server.smallTray.id, secondTray.id]⟩) ∧
      broughtAbout out' = broughtAbout out := by
  intro loses carried reference out out'
  have hfound : spilling.server.registry.cables.find? stored.id = some stored := by decide +kernel
  have hrecast : carried.Recast spilling.server.registry reference := .reference _ hfound (.inl rfl)
  have hreads : ∀ e ∈ ((reference.operation ⟨1, .a⟩).job.run (Server.unsteady loses) spilling.client
      (spilling.server, [])).2.2.2, e.call.isWrite = false → e.succeeded = true := by decide +kernel
  have hout :
      out'.1 = .fill (.partiallyConnected ⟨4, 6, [Server.smallTray.id, secondTray.id]⟩) := by
    decide +kernel
  have heq := fill_as_listed loses spilling.client spilling.server ⟨1, .a⟩ hrecast hreads
  exact ⟨hout, heq⟩

end Session
end CrossConnect
