import CrossConnect.Proofs.Client.Task

/-!
One or two single steps under way. As long as both are pending each owes what is right in the sight
of the other; once one of them has ended, the rows themselves are right in the sight of the one that
is left.
-/
namespace CrossConnect.Bench

variable {id : StructureId} {b : Bench id} {t x y : Task id}

structure Fit (b : Bench id) : Prop where
  selected : b.client.editor.structureId = some id
  ascends : Occupancy.Ascends b.client.editor.rows
  sound : b.server.Sound
  listings : "get_fiber_splices" ∉ b.server.failpoints
  valid : ∀ t ∈ b.tasks, t.Valid b.server.registry

theorem acts (h : b.Fit) {m : Move} (hreads : b.scene.LosesNoRead m.event)
    (ht : b.tasks[m.index]? = some t) :
    ∃ t', (b.move m).tasks = b.tasks.set m.index t' ∧
      t.Acts t' b.client (b.move m).client b.server (b.move m).server := by
  have hvalid := h.valid t (List.mem_of_getElem? ht)
  cases m with
  | serve index =>
    dsimp only [Move.index] at ht
    have hserves := Task.serves hvalid h.listings
    refine ⟨(t.serve b.server).1, by rw [move_serve ht]; rfl, ?_⟩
    rw [move_serve ht]
    exact {
      origin := t.origin_serve b.server
      valid := hserves.valid h.sound hvalid
      selected := h.selected
      ascends := h.ascends
      sound := hserves.sound h.sound
      failpoints := hserves.failpoints
      structures := hserves.structures
      group := hserves.group h.sound
      due := fun g hdue => hserves.due h.sound hvalid hdue
      same := hserves.same h.sound hvalid
      pending := fun hended => ⟨rfl, (t.isEnded_serve b.server).symm.trans hended⟩ }
  | lose index failure =>
    dsimp only [Move.index] at ht
    have hwrite : t.sent?.all Call.isWrite = true := by
      have hreads : (b.scene.sent? index).all Call.isWrite = true := hreads
      rw [sent?_scene, ht] at hreads
      exact hreads
    refine ⟨t.lose failure, by rw [move_lose ht]; rfl, ?_⟩
    rw [move_lose ht]
    exact {
      origin := t.origin_lose failure
      valid := Task.valid_lose hvalid failure
      selected := h.selected
      ascends := h.ascends
      sound := h.sound
      failpoints := rfl
      structures := rfl
      group := fun _ => rfl
      due := fun g hdue => Task.due_lose hdue failure hwrite
      same := .refl _ _
      pending := fun hended => ⟨rfl, (t.isEnded_lose failure).symm.trans hended⟩ }
  | deliver index =>
    dsimp only [Move.index] at ht
    have heditor := Task.deliver_editor hvalid h.selected h.ascends
    refine ⟨(t.deliver b.client).1, by rw [move_deliver ht]; rfl, ?_⟩
    rw [move_deliver ht]
    exact {
      origin := t.origin_deliver b.client
      valid := Task.valid_deliver hvalid b.client
      selected := heditor.2
      ascends := heditor.1
      sound := h.sound
      failpoints := rfl
      structures := rfl
      group := fun _ => rfl
      due := fun g hdue => Task.due_deliver hvalid h.selected h.ascends hdue
      same := .refl _ _
      pending := Task.deliver_of_pending }

theorem deliver_of_ended {index : Nat} {m : Move} {t' : Task id} (ht : b.tasks[index]? = some t)
    (hpending : t.isEnded = false) (ht' : (b.move m).tasks[index]? = some t')
    (hended : t'.isEnded = true) : m = .deliver index := by
  have hlt : index < b.tasks.length := (List.getElem?_eq_some_iff.1 ht).1
  have hother : ∀ {i : Nat} {u : Task id}, (b.tasks.set i u)[index]? = some t' →
      i = index ∧ u = t' := by
    intro i u hset
    by_cases hi : i = index
    · subst hi
      rw [List.getElem?_set_self hlt] at hset
      exact ⟨rfl, Option.some.inj hset⟩
    · rw [List.getElem?_set_ne hi, ht] at hset
      obtain rfl := Option.some.inj hset
      exact absurd hended (by simp [hpending])
  cases hu : b.tasks[m.index]? with
  | none =>
    rw [move_of_none hu, ht] at ht'
    obtain rfl := Option.some.inj ht'
    exact absurd hended (by simp [hpending])
  | some u =>
    cases m with
    | serve i =>
      dsimp only [Move.index] at hu
      rw [move_serve hu] at ht'
      obtain ⟨rfl, rfl⟩ := hother ht'
      obtain rfl := Option.some.inj (hu.symm.trans ht)
      rw [Task.isEnded_serve, hpending] at hended
      cases hended
    | lose i failure =>
      dsimp only [Move.index] at hu
      rw [move_lose hu] at ht'
      obtain ⟨rfl, rfl⟩ := hother ht'
      obtain rfl := Option.some.inj (hu.symm.trans ht)
      rw [Task.isEnded_lose, hpending] at hended
      cases hended
    | deliver i =>
      dsimp only [Move.index] at hu
      rw [move_deliver hu] at ht'
      rw [(hother ht').1]

theorem refused_of_ended (step : SingleStep) {reported : Bool}
    (hended : (b.start step).tasks[b.tasks.length]?.bind (·.stage.outcome?) =
      some (.flag reported)) :
    reported = false ∧ (b.start step).client.editor.rows = b.client.editor.rows := by
  simp only [start] at hended ⊢
  split at hended
  next hport =>
    simp only [List.getElem?_concat_length] at hended
    obtain rfl : false = reported := Outcome.flag.inj (Option.some.inj hended)
    exact ⟨rfl, rfl⟩
  next hport =>
    simp only [List.getElem?_concat_length] at hended
    cases hended

theorem Fit.move (h : b.Fit) {m : Move} (hreads : b.scene.LosesNoRead m.event) :
    (b.move m).Fit := by
  cases ht : b.tasks[m.index]? with
  | none =>
    rw [move_of_none ht]
    exact h
  | some t =>
    obtain ⟨t', htasks, hacts⟩ := acts h hreads ht
    refine ⟨hacts.selected, hacts.ascends, hacts.sound, ?_, fun t'' hmem => ?_⟩
    · rw [hacts.failpoints]
      exact h.listings
    · rw [htasks] at hmem
      rcases List.mem_or_eq_of_mem_set hmem with hmem | rfl
      · exact (h.valid t'' hmem).of_same hacts.structures hacts.group
      · exact hacts.valid

structure Alone (b : Bench id) (x : Task id) : Prop where
  tasks : b.tasks = [x]
  due : x.Due .full (Occupancy.row b.client.editor.rows) (b.server.registry.stored id)
  near : x.isEnded = false →
    x.sight.Agrees (Occupancy.row b.client.editor.rows) (b.server.registry.stored id) ∧
      ∀ spot, Occupancy.groupOf b.client.editor.rows spot =
        (b.server.registry.endpoint id spot).group

theorem Alone.move (h : b.Alone x) (hfit : b.Fit) {m : Move}
    (hreads : b.scene.LosesNoRead m.event) : ∃ x', (b.move m).Alone x' := by
  cases ht : b.tasks[m.index]? with
  | none =>
    rw [move_of_none ht]
    exact ⟨x, h⟩
  | some t =>
    obtain ⟨x', htasks, hacts⟩ := acts hfit hreads ht
    rw [h.tasks] at ht htasks
    obtain ⟨hindex, rfl⟩ : m.index = 0 ∧ t = x := by
      cases hindex : m.index with
      | zero =>
        rw [hindex] at ht
        exact ⟨rfl, (Option.some.inj ht).symm⟩
      | succ n =>
        rw [hindex] at ht
        cases ht
    rw [hindex] at htasks
    refine ⟨x', htasks, hacts.due _ h.due, fun hended => ?_⟩
    obtain ⟨hclient, hpending⟩ := hacts.pending hended
    obtain ⟨hagrees, hgroup⟩ := h.near hpending
    rw [Task.sight_of_origin hacts.origin, hclient]
    refine ⟨hagrees.of_same hacts.same.symm, fun spot => ?_⟩
    rw [hacts.group]
    exact hgroup spot

/-- Two steps under way. What each owes is right in the sight of the other, as long as the other one
has not ended. -/
structure Both (b : Bench id) (x y : Task id) : Prop where
  tasks : b.tasks = [x, y]
  first : y.isEnded = false →
    x.Due y.sight (Occupancy.row b.client.editor.rows) (b.server.registry.stored id)
  second : x.isEnded = false →
    y.Due x.sight (Occupancy.row b.client.editor.rows) (b.server.registry.stored id)

theorem due_other {t' : Task id} {c c' : Client} {s s' : Server} (h : t.Acts t' c c' s s')
    (hended : t'.isEnded = false)
    (hdue : t.isEnded = false → x.Due t.sight (Occupancy.row c.editor.rows)
      (s.registry.stored id)) :
    x.Due t'.sight (Occupancy.row c'.editor.rows) (s'.registry.stored id) := by
  obtain ⟨rfl, hpending⟩ := h.pending hended
  rw [Task.sight_of_origin h.origin]
  exact (hdue hpending).of_same h.same.symm

theorem Both.move (h : b.Both x y) (hfit : b.Fit) {m : Move}
    (hreads : b.scene.LosesNoRead m.event) : ∃ x' y', (b.move m).Both x' y' := by
  cases ht : b.tasks[m.index]? with
  | none =>
    rw [move_of_none ht]
    exact ⟨x, y, h⟩
  | some t =>
    obtain ⟨t', htasks, hacts⟩ := acts hfit hreads ht
    rw [h.tasks] at ht htasks
    -- The step with the event goes on owing; the other one does not see what happened.
    cases hindex : m.index with
    | zero =>
      rw [hindex] at ht htasks
      obtain rfl := Option.some.inj ht
      exact ⟨t', y, htasks, fun hended => hacts.due _ (h.first hended),
        fun hended => due_other hacts hended h.second⟩
    | succ n =>
      rw [hindex] at ht htasks
      cases n with
      | zero =>
        obtain rfl := Option.some.inj ht
        exact ⟨x, t', htasks, fun hended => due_other hacts hended h.first,
          fun hended => hacts.due _ (h.second hended)⟩
      | succ n => cases ht

theorem group_moveAll (hfit : b.Fit) {moves : List Move}
    (hreads : b.scene.ReadsArrive Server.answer (moves.map Move.event)) (spot : PortSide) :
    ((b.moveAll moves).server.registry.endpoint id spot).group =
      (b.server.registry.endpoint id spot).group := by
  induction moves generalizing b with
  | nil => rfl
  | cons m moves ih =>
    have hrest := hreads.2
    rw [step_scene] at hrest
    refine (ih (hfit.move hreads.1) hrest).trans ?_
    cases ht : b.tasks[m.index]? with
    | none => rw [move_of_none ht]
    | some t =>
      obtain ⟨t', -, hacts⟩ := acts hfit hreads.1 ht
      exact hacts.group spot

theorem alone_moveAll (h : b.Alone x) (hfit : b.Fit) {moves : List Move}
    (hreads : b.scene.ReadsArrive Server.answer (moves.map Move.event)) :
    (b.moveAll moves).Fit ∧ ∃ x', (b.moveAll moves).Alone x' := by
  induction moves generalizing b x with
  | nil => exact ⟨hfit, x, h⟩
  | cons m moves ih =>
    obtain ⟨x', h'⟩ := h.move hfit hreads.1
    have hrest := hreads.2
    rw [step_scene] at hrest
    exact ih h' (hfit.move hreads.1) hrest

theorem both_moveAll (h : b.Both x y) (hfit : b.Fit) {moves : List Move}
    (hreads : b.scene.ReadsArrive Server.answer (moves.map Move.event)) :
    (b.moveAll moves).Fit ∧ ∃ x' y', (b.moveAll moves).Both x' y' := by
  induction moves generalizing b x y with
  | nil => exact ⟨hfit, x, y, h⟩
  | cons m moves ih =>
    obtain ⟨x', y', h'⟩ := h.move hfit hreads.1
    have hrest := hreads.2
    rw [step_scene] at hrest
    exact ih h' (hfit.move hreads.1) hrest

/-! ### Starts -/

structure Starts (b b' : Bench id) (step : SingleStep) (t : Task id) : Prop where
  tasks : b'.tasks = b.tasks ++ [t]
  origin : t.origin = (step, (Occupancy.groupOf b.client.editor.rows step.spot).isSome,
    b.client.editor.rows)
  fit : b'.Fit
  server : b'.server = b.server
  group : ∀ spot, Occupancy.groupOf b'.client.editor.rows spot =
    Occupancy.groupOf b.client.editor.rows spot
  same : t.sight.Same (Occupancy.row b'.client.editor.rows) (Occupancy.row b.client.editor.rows)
  stems : t.sight.notices →
    Stems (Occupancy.row b'.client.editor.rows) (Occupancy.row b.client.editor.rows)
  due : ∀ g : Sight, g.Agrees (Occupancy.row b.client.editor.rows) (b.server.registry.stored id) →
    t.Due g (Occupancy.row b'.client.editor.rows) (b.server.registry.stored id)

theorem starts (h : b.Fit) (step : SingleStep)
    (hgroup : Occupancy.groupOf b.client.editor.rows step.spot =
      (b.server.registry.endpoint id step.spot).group) :
    ∃ t, b.Starts (b.start step) step t := by
  have hscope := step.scope_edit id
  have hfilled := h.sound.wellFormed.filled_stored id
  cases hport : Client.requirePort b.client.editor step.spot with
  | error e =>
    let t : Task id := {
      step
      merged := (Occupancy.groupOf b.client.editor.rows step.spot).isSome
      before := b.client.editor.rows
      phase := .ended false }
    have hstart : b.start step = { b with
        client := b.client.notify (step.notice (.error e))
        tasks := b.tasks ++ [t] } := by
      simp only [start, hport, t]
    rw [hstart]
    refine ⟨t, rfl, rfl, ⟨h.selected, h.ascends, h.sound, h.listings, ?_⟩, rfl, fun _ => rfl,
      .refl _ _, fun _ port r hrow => ⟨r, hrow, rfl, fun hempty => hempty⟩,
      fun g hagrees => hagrees⟩
    intro t' hmem
    rcases List.mem_append.1 hmem with hmem | hmem
    · exact h.valid t' hmem
    · obtain rfl := List.mem_singleton.1 hmem
      exact ⟨h.ascends, by rw [← hgroup], trivial⟩
  | ok _ =>
    let t : Task id := {
      step
      merged := (Occupancy.groupOf b.client.editor.rows step.spot).isSome
      before := b.client.editor.rows }
    have hstart : b.start step = { b with
        client := b.client.apply (step.edit id)
        tasks := b.tasks ++ [t] } := by
      simp only [start, hport, t]
    have hnone : t.merged = false → Occupancy.groupOf b.client.editor.rows step.spot = none :=
      fun hmerged => by simpa [t] using hmerged
    rw [hstart]
    refine ⟨t, rfl, rfl, ⟨?_, ?_, h.sound, h.listings, ?_⟩, rfl, ?_, ?_, ?_, ?_⟩
    · exact (Client.structureId_apply hscope).trans h.selected
    · exact step.ascends_edit h.selected h.ascends
    · intro t' hmem
      rcases List.mem_append.1 hmem with hmem | hmem
      · exact h.valid t' hmem
      · obtain rfl := List.mem_singleton.1 hmem
        exact ⟨h.ascends, by rw [← hgroup], trivial⟩
    · exact step.groupOf_edit h.selected h.ascends
    · simp only [Task.sight]
      split
      next => exact Sight.same_blind
      next hmerged => exact step.same_edit h.selected h.ascends (hnone (by simpa using hmerged)) _
    · simp only [Task.sight]
      split
      next => exact False.elim
      next hmerged =>
        intro hclears
        have hnone := hnone (by simpa using hmerged)
        cases step with
        | drop spot fiber => cases hclears
        | clear spot => exact SingleStep.stems_vacate h.selected hnone
    · intro g hagrees
      exact ⟨hagrees, fun hmerged =>
        step.edited_edit h.selected h.ascends (hnone hmerged) hagrees hfilled⟩

theorem groupOf_of_row {rows : List Splice} {r : Registry} {spot : PortSide}
    (h : Occupancy.row rows spot.port = r.stored id spot.port) :
    Occupancy.groupOf rows spot = (r.endpoint id spot).group := by
  simp only [Occupancy.groupOf, Registry.endpoint]
  rw [h]
  simp only [Registry.stored]
  cases r.rows.find? (id, spot.port) <;> rfl

theorem Starts.alone {b' : Bench id} {step : SingleStep} (h : b.Starts b' step t)
    (htasks : b.tasks = []) (hrows : Sight.full.Agrees (Occupancy.row b.client.editor.rows)
      (b.server.registry.stored id)) : b'.Alone t := by
  refine ⟨by rw [h.tasks, htasks]; rfl, ?_, fun _ => ⟨?_, fun spot => ?_⟩⟩
  · rw [h.server]
    exact h.due _ hrows
  · rw [h.server]
    exact hrows.of_stems h.same h.stems
  · rw [h.server, h.group]
    exact groupOf_of_row (congrFun (Sight.same_full.1 hrows.1) _)

theorem Starts.both {b' : Bench id} {step : SingleStep} (h : b.Starts b' step y)
    (hx : b.Alone x) : b'.Both x y := by
  refine ⟨by rw [h.tasks, hx.tasks]; rfl, fun _ => ?_, fun hended => ?_⟩
  · rw [h.server]
    exact hx.due.of_stems h.same h.stems
  · rw [h.server]
    exact h.due _ (hx.near hended).1

theorem Alone.group (h : b.Alone x) (spot : PortSide) :
    Occupancy.groupOf b.client.editor.rows spot = (b.server.registry.endpoint id spot).group := by
  cases hended : x.isEnded with
  | false => exact (h.near hended).2 spot
  | true =>
    obtain ⟨step, merged, before, phase, served⟩ := x
    cases phase with
    | ended reported =>
      have hdue : Sight.full.Agrees _ _ := h.due
      exact groupOf_of_row (congrFun (Sight.same_full.1 hdue.1) _)
    | _ => cases hended

end CrossConnect.Bench
