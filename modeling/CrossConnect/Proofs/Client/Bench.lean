import CrossConnect.Proofs.Client.SingleStep

/-!
Single steps told apart by how far they have got. Between its events a step is determined by what it
waits for and by the rows it started from, so that a schedule of them runs on data alone.
-/
namespace CrossConnect

/-! ### Schedules -/

inductive Move
  | serve (index : Nat)
  | lose (index : Nat) (failure : Failure)
  | deliver (index : Nat)
deriving DecidableEq, Repr

def Move.index : Move → Nat
  | serve index | lose index _ | deliver index => index

def Move.event : Move → Event
  | serve index => .serve index
  | lose index failure => .lose index failure
  | deliver index => .deliver index

namespace Scene

variable {σ : Type}

def sent? (scene : Scene σ) (index : Nat) : Option Call :=
  match scene.stage? index with
  | some (.sent call _) => some call
  | _ => none

def servedBy (authority : Authority σ) (index : Nat) (scene : Scene σ) (event : Event) : Option σ :=
  if event = .serve index ∧ (scene.sent? index).isSome then
    some (scene.step authority event).authority
  else none

def lastServed (authority : Authority σ) (index : Nat) (scene : Scene σ) : List Event → Option σ
  | [] => none
  | event :: schedule =>
    (lastServed authority index (scene.step authority event) schedule).or
      (scene.servedBy authority index event)

/-- Only a write gets lost. -/
def LosesNoRead (scene : Scene σ) : Event → Prop
  | .lose index _ => (scene.sent? index).all Call.isWrite = true
  | _ => True

def ReadsArrive (authority : Authority σ) (scene : Scene σ) : List Event → Prop
  | [] => True
  | event :: schedule =>
    scene.LosesNoRead event ∧ ReadsArrive authority (scene.step authority event) schedule

instance (scene : Scene σ) : (event : Event) → Decidable (scene.LosesNoRead event)
  | .lose index _ => inferInstanceAs (Decidable ((scene.sent? index).all Call.isWrite = true))
  | .start _ | .serve _ | .deliver _ => isTrue trivial

instance decidableReadsArrive (authority : Authority σ) :
    (scene : Scene σ) → (schedule : List Event) → Decidable (scene.ReadsArrive authority schedule)
  | _, [] => isTrue trivial
  | scene, event :: schedule =>
    have := decidableReadsArrive authority (scene.step authority event) schedule
    inferInstanceAs (Decidable (scene.LosesNoRead event ∧ _))

variable {authority : Authority σ} {scene : Scene σ} {schedule rest : List Event}

theorem lastServed_append (index : Nat) :
    scene.lastServed authority index (schedule ++ rest) =
      ((scene.run authority schedule).lastServed authority index rest).or
        (scene.lastServed authority index schedule) := by
  induction schedule generalizing scene with
  | nil => exact Option.or_none.symm
  | cons event schedule ih =>
    change (lastServed authority index (scene.step authority event) (schedule ++ rest)).or _ = _
    rw [ih, Option.or_assoc]
    rfl

theorem lastServed_start (index : Nat) (operation : Operation) :
    scene.lastServed authority index (.start operation :: schedule) =
      (scene.step authority (.start operation)).lastServed authority index schedule := by
  have hnone : scene.servedBy authority index (.start operation) = none :=
    if_neg fun h => Event.noConfusion h.1
  rw [lastServed, hnone, Option.or_none]

theorem readsArrive_append :
    scene.ReadsArrive authority (schedule ++ rest) ↔
      scene.ReadsArrive authority schedule ∧
        (scene.run authority schedule).ReadsArrive authority rest := by
  induction schedule generalizing scene with
  | nil => exact (and_iff_right trivial).symm
  | cons event schedule ih =>
    change _ ∧ ReadsArrive authority (scene.step authority event) (schedule ++ rest) ↔ _
    rw [ih, ← and_assoc]
    rfl

end Scene

/-! ### Single steps under way -/

/-- What a single step waits for, or what it reported. -/
inductive Phase (id : StructureId) (step : SingleStep)
  | asked
  | told (answer : Except Failure (step.write id).Answer)
  | fetching
  | fetched (answer : Except Failure (List Splice))
  | ended (reported : Bool)

structure Task (id : StructureId) where
  step : SingleStep
  merged : Bool
  before : List Splice
  phase : Phase id step := .asked
  served : Option Server := none

namespace Task

variable {id : StructureId}

def stage (t : Task id) : Stage :=
  match t.phase with
  | .asked => .sent (t.step.write id) (t.step.resume id t.merged t.before)
  | .told answer => .answered (t.step.write id) answer (t.step.resume id t.merged t.before)
  | .fetching => .sent (.rowsOf id) (t.step.relisted id t.before)
  | .fetched answer => .answered (.rowsOf id) answer (t.step.relisted id t.before)
  | .ended reported => .ended (.flag reported)

def activity (t : Task id) : Activity :=
  ⟨t.step.operation, t.stage⟩

def serve (t : Task id) (s : Server) : Task id × Server :=
  match t.phase with
  | .asked =>
    let (answer, s) := s.answer (t.step.write id)
    ({ t with phase := .told answer, served := some s }, s)
  | .fetching =>
    let (answer, s) := s.answer (.rowsOf id)
    ({ t with phase := .fetched answer, served := some s }, s)
  | _ => (t, s)

def lose (t : Task id) (failure : Failure) : Task id :=
  match t.phase with
  | .asked => { t with phase := .told (.error failure) }
  | .fetching => { t with phase := .fetched (.error failure) }
  | _ => t

def deliver (t : Task id) (c : Client) : Task id × Client :=
  match t.phase with
  | .told (.error e) => ({ t with phase := .ended false }, t.step.settle id t.before (.error e) c)
  | .told (.ok a) =>
    if t.merged then ({ t with phase := .fetching }, c)
    else ({ t with phase := .ended true },
      t.step.settle id t.before (.ok (t.step.settlement id a)) c)
  | .fetched answer =>
    ({ t with phase := .ended answer.isOk }, t.step.settle id t.before (answer.map .listing) c)
  | _ => (t, c)

def origin (t : Task id) : SingleStep × Bool × List Splice :=
  (t.step, t.merged, t.before)

def sent? (t : Task id) : Option Call :=
  match t.phase with
  | .asked => some (t.step.write id)
  | .fetching => some (.rowsOf id)
  | _ => none

section fields

variable (t : Task id) (s : Server) (failure : Failure) (c : Client)

theorem origin_serve : (t.serve s).1.origin = t.origin := by
  rw [serve]
  split <;> rfl

theorem origin_lose : (t.lose failure).origin = t.origin := by
  simp only [lose]
  split <;> rfl

theorem origin_deliver : (t.deliver c).1.origin = t.origin := by
  simp only [deliver]
  split
  · rfl
  · split <;> rfl
  · rfl
  · rfl

theorem served_serve :
    (t.serve s).1.served = if t.sent?.isSome then some (t.serve s).2 else t.served := by
  obtain ⟨step, merged, before, phase, served⟩ := t
  cases phase <;> rfl

theorem served_lose : (t.lose failure).served = t.served := by
  simp only [lose]
  split <;> rfl

theorem served_deliver : (t.deliver c).1.served = t.served := by
  simp only [deliver]
  split
  · rfl
  · split <;> rfl
  · rfl
  · rfl

end fields

end Task

structure Bench (id : StructureId) where
  client : Client
  server : Server
  tasks : List (Task id)

namespace Bench

variable {id : StructureId}

def scene (b : Bench id) : Scene Server :=
  { client := b.client, authority := b.server, activities := b.tasks.map Task.activity }

def move (b : Bench id) : Move → Bench id
  | .serve index => match b.tasks[index]? with
    | some t =>
      { b with tasks := b.tasks.set index (t.serve b.server).1, server := (t.serve b.server).2 }
    | none => b
  | .lose index failure => match b.tasks[index]? with
    | some t => { b with tasks := b.tasks.set index (t.lose failure) }
    | none => b
  | .deliver index => match b.tasks[index]? with
    | some t =>
      { b with tasks := b.tasks.set index (t.deliver b.client).1, client := (t.deliver b.client).2 }
    | none => b

def moveAll (b : Bench id) (moves : List Move) : Bench id :=
  moves.foldl move b

variable {b : Bench id} {index : Nat} {t : Task id}

theorem stage?_scene (b : Bench id) (index : Nat) :
    b.scene.stage? index = b.tasks[index]?.map Task.stage := by
  simp only [scene, Scene.stage?, List.getElem?_map, Option.map_map]
  rfl

theorem move_serve (h : b.tasks[index]? = some t) : b.move (.serve index) =
    { b with tasks := b.tasks.set index (t.serve b.server).1, server := (t.serve b.server).2 } := by
  simp only [move, h]

theorem move_lose (h : b.tasks[index]? = some t) (failure : Failure) :
    b.move (.lose index failure) = { b with tasks := b.tasks.set index (t.lose failure) } := by
  simp only [move, h]

theorem move_deliver (h : b.tasks[index]? = some t) : b.move (.deliver index) =
    { b with
      tasks := b.tasks.set index (t.deliver b.client).1
      client := (t.deliver b.client).2 } := by
  simp only [move, h]

theorem move_of_none {m : Move} (h : b.tasks[m.index]? = none) : b.move m = b := by
  cases m with
  | serve index => simp only [move, show b.tasks[index]? = none from h]
  | lose index failure => simp only [move, show b.tasks[index]? = none from h]
  | deliver index => simp only [move, show b.tasks[index]? = none from h]

theorem modify_activities (h : b.tasks[index]? = some t) {t' : Task id}
    (horigin : t'.origin = t.origin) :
    (b.tasks.map Task.activity).modify index ({ · with stage := t'.stage }) =
      (b.tasks.set index t').map Task.activity := by
  refine List.ext_getElem? fun i => ?_
  rw [List.getElem?_modify, List.getElem?_map, List.getElem?_map]
  by_cases hi : index = i
  · subst hi
    have hlt : index < b.tasks.length := (List.getElem?_eq_some_iff.1 h).1
    rw [h, List.getElem?_set_self hlt]
    have hstep : t'.step = t.step := congrArg Prod.fst horigin
    simp [Task.activity, hstep]
  · rw [List.getElem?_set_ne hi]
    simp [hi]

theorem set_same {α : Type} {as : List α} {a : α} (h : as[index]? = some a) :
    as.set index a = as := by
  obtain ⟨hlt, rfl⟩ := List.getElem?_eq_some_iff.1 h
  exact List.set_getElem_self hlt

theorem scene_set (h : b.tasks[index]? = some t) {t' : Task id} (horigin : t'.origin = t.origin)
    (c : Client) (s : Server) :
    ({ client := c, authority := s,
       activities := b.tasks.map Task.activity } : Scene Server).advance index t'.stage =
        ({ client := c, server := s, tasks := b.tasks.set index t' } : Bench id).scene :=
  congrArg (Scene.mk c s) (modify_activities h horigin)

theorem scene_set_same (h : b.tasks[index]? = some t) :
    ({ b with tasks := b.tasks.set index t } : Bench id).scene = b.scene := by
  rw [set_same h]

theorem step_scene (b : Bench id) (m : Move) :
    b.scene.step Server.answer m.event = (b.move m).scene := by
  cases m with
  | serve index =>
    simp only [Scene.step, Move.event, move]
    rw [stage?_scene]
    cases h : b.tasks[index]? with
    | none => rfl
    | some t =>
      have hset := scene_set h (t.origin_serve b.server) b.client (t.serve b.server).2
      obtain ⟨step, merged, before, phase, served⟩ := t
      cases phase with
      | asked => exact hset
      | fetching => exact hset
      | told answer => exact (scene_set_same h).symm
      | fetched answer => exact (scene_set_same h).symm
      | ended reported => exact (scene_set_same h).symm
  | lose index failure =>
    simp only [Scene.step, Move.event, move]
    rw [stage?_scene]
    cases h : b.tasks[index]? with
    | none => rfl
    | some t =>
      have hset := scene_set h (t.origin_lose failure) b.client b.server
      obtain ⟨step, merged, before, phase, served⟩ := t
      cases phase with
      | asked => exact hset
      | fetching => exact hset
      | told answer => exact (scene_set_same h).symm
      | fetched answer => exact (scene_set_same h).symm
      | ended reported => exact (scene_set_same h).symm
  | deliver index =>
    simp only [Scene.step, Move.event, move]
    rw [stage?_scene]
    cases h : b.tasks[index]? with
    | none => rfl
    | some t =>
      have hset := scene_set h (t.origin_deliver b.client) (t.deliver b.client).2 b.server
      obtain ⟨step, merged, before, phase, served⟩ := t
      cases phase with
      | asked => exact (scene_set_same h).symm
      | fetching => exact (scene_set_same h).symm
      | told answer =>
        rcases answer with e | a
        · exact hset
        · cases merged with
          | false => exact hset
          | true => exact hset
      | fetched answer => exact hset
      | ended reported => exact (scene_set_same h).symm

theorem run_scene (b : Bench id) (moves : List Move) :
    b.scene.run Server.answer (moves.map Move.event) = (b.moveAll moves).scene := by
  induction moves generalizing b with
  | nil => rfl
  | cons m moves ih =>
    change (b.scene.step Server.answer m.event).run Server.answer (moves.map Move.event) = _
    rw [step_scene, ih]
    rfl

theorem origin_move (b : Bench id) (m : Move) :
    (b.move m).tasks.map Task.origin = b.tasks.map Task.origin := by
  have hset : ∀ {index : Nat} {t t' : Task id}, b.tasks[index]? = some t → t'.origin = t.origin →
      (b.tasks.set index t').map Task.origin = b.tasks.map Task.origin := by
    intro index t t' h horigin
    rw [List.map_set, horigin]
    exact set_same (by rw [List.getElem?_map, h, Option.map_some])
  cases h : b.tasks[m.index]? with
  | none => rw [move_of_none h]
  | some t =>
    cases m with
    | serve index =>
      dsimp only [Move.index] at h
      rw [move_serve h]
      exact hset h (t.origin_serve b.server)
    | lose index failure =>
      dsimp only [Move.index] at h
      rw [move_lose h]
      exact hset h (t.origin_lose failure)
    | deliver index =>
      dsimp only [Move.index] at h
      rw [move_deliver h]
      exact hset h (t.origin_deliver b.client)

theorem origin_moveAll (b : Bench id) (moves : List Move) :
    (b.moveAll moves).tasks.map Task.origin = b.tasks.map Task.origin := by
  induction moves generalizing b with
  | nil => rfl
  | cons m moves ih => exact (ih (b.move m)).trans (origin_move b m)

theorem sent?_scene (b : Bench id) (index : Nat) :
    b.scene.sent? index = b.tasks[index]?.bind Task.sent? := by
  simp only [Scene.sent?]
  rw [stage?_scene]
  cases b.tasks[index]? with
  | none => rfl
  | some t =>
    obtain ⟨step, merged, before, phase, served⟩ := t
    cases phase <;> rfl

def served (b : Bench id) (index : Nat) : Option Server :=
  b.tasks[index]?.bind (·.served)

theorem served_of_set {t' : Task id} (h : b.tasks[index]? = some t) (hserved : t'.served = t.served)
    (c : Client) (s : Server) (other : Nat) :
    ({ client := c, server := s, tasks := b.tasks.set index t' } : Bench id).served other =
      b.served other := by
  simp only [served]
  by_cases hother : index = other
  · subst hother
    have hlt : index < b.tasks.length := (List.getElem?_eq_some_iff.1 h).1
    rw [List.getElem?_set_self hlt, h, Option.bind_some, Option.bind_some, hserved]
  · rw [List.getElem?_set_ne hother]

theorem served_move (b : Bench id) (m : Move) (index : Nat) :
    (b.move m).served index =
      (b.scene.servedBy Server.answer index m.event).or (b.served index) := by
  simp only [Scene.servedBy]
  rw [step_scene, sent?_scene]
  cases h : b.tasks[m.index]? with
  | none =>
    rw [move_of_none h, if_neg, Option.none_or]
    rintro ⟨hevent, hsent⟩
    obtain rfl : m = .serve index := by cases m <;> cases hevent; rfl
    rw [show b.tasks[index]? = none from h] at hsent
    cases hsent
  | some t =>
    cases m with
    | lose i failure =>
      dsimp only [Move.index] at h
      rw [move_lose h, served_of_set h (t.served_lose failure),
        if_neg fun hevent => Event.noConfusion hevent.1]
      rfl
    | deliver i =>
      dsimp only [Move.index] at h
      rw [move_deliver h, served_of_set h (t.served_deliver b.client),
        if_neg fun hevent => Event.noConfusion hevent.1]
      rfl
    | serve i =>
      dsimp only [Move.index] at h
      rw [move_serve h]
      by_cases hi : i = index
      · subst hi
        have hlt : i < b.tasks.length := (List.getElem?_eq_some_iff.1 h).1
        simp only [served, List.getElem?_set_self hlt, h, Option.bind_some,
          t.served_serve, Move.event, true_and, scene]
        split <;> simp
      · rw [if_neg fun hevent => hi (Event.serve.inj hevent.1), Option.none_or]
        simp only [served, List.getElem?_set_ne hi]

theorem served_moveAll (b : Bench id) (moves : List Move) (index : Nat) :
    (b.moveAll moves).served index =
      (b.scene.lastServed Server.answer index (moves.map Move.event)).or (b.served index) := by
  induction moves generalizing b with
  | nil => rfl
  | cons m moves ih =>
    change ((b.move m).moveAll moves).served index = _
    rw [ih, served_move, ← step_scene, ← Option.or_assoc]
    rfl

def start (b : Bench id) (step : SingleStep) : Bench id :=
  let t : Task id := {
    step
    merged := (Occupancy.groupOf b.client.editor.rows step.spot).isSome
    before := b.client.editor.rows }
  match Client.requirePort b.client.editor step.spot with
  | .error e => { b with
      client := b.client.notify (step.notice (.error e))
      tasks := b.tasks ++ [{ t with phase := .ended false }] }
  | .ok _ => { b with client := b.client.apply (step.edit id), tasks := b.tasks ++ [t] }

theorem step_start (step : SingleStep) (hid : b.client.editor.structureId = some id) :
    b.scene.step Server.answer (.start step.operation) = (b.start step).scene := by
  have hjob := step.job_eq b.client hid
  simp only [Scene.step, start, scene]
  rw [hjob]
  cases Client.requirePort b.client.editor step.spot with
  | error e =>
    dsimp only
    rw [List.map_append]
    rfl
  | ok _ =>
    dsimp only
    rw [List.map_append]
    rfl

theorem tasks_start (b : Bench id) (step : SingleStep) : ∃ t : Task id,
    (b.start step).tasks = b.tasks ++ [t] ∧ t.served = none ∧
      t.origin = (step, (Occupancy.groupOf b.client.editor.rows step.spot).isSome,
        b.client.editor.rows) := by
  simp only [start]
  split
  · exact ⟨_, rfl, rfl, rfl⟩
  · exact ⟨_, rfl, rfl, rfl⟩

theorem served_start (b : Bench id) (step : SingleStep) (index : Nat) :
    (b.start step).served index = b.served index := by
  obtain ⟨t, htasks, hserved, -⟩ := b.tasks_start step
  simp only [served]
  rw [htasks, List.getElem?_append]
  split
  next => rfl
  next hlt =>
    rw [List.getElem?_eq_none (by omega : b.tasks.length ≤ index)]
    cases index - b.tasks.length with
    | zero => exact hserved
    | succ n => rfl

end Bench
end CrossConnect
