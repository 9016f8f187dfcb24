import CrossConnect.Client.Exchange
import CrossConnect.Client.Schedule
import Mathlib

/-!
Jobs among others. Other jobs may change the client between two calls of a job, so a job is
described by what it does from one call to the next: which calls it makes, how it leaves the client
that it found, and what it ends with, all in view of the answers it has had. An operation then keeps
to this description in every schedule.
-/
namespace CrossConnect

/-- What a job goes by and what it keeps to; `past` are the exchanges it has had. -/
structure Terms where
  finds : Client → Prop := fun _ => True
  hears : (past : List Exchange) → Exchange → Prop := fun _ _ => True
  leaves : (found left : Client) → Prop
  asks : (past : List Exchange) → Call → Prop := fun _ _ => True

/-- From the client it found, the job goes on as agreed until its end. -/
def Progress.Abides {α : Type} (terms : Terms)
    (ending : List Exchange → Client → Client → α → Prop) :
    List Exchange → Client → Progress α → Prop
  | past, found, done left value => ending past found left value
  | past, found, waits left call resume =>
    terms.leaves found left ∧ terms.asks past call ∧
      ∀ answer, terms.hears past ⟨call, answer⟩ → ∀ next, terms.finds next →
        (resume answer next).Abides terms ending (past ++ [⟨call, answer⟩]) next

namespace Progress.Abides

variable {α β : Type} {terms terms' : Terms} {past : List Exchange} {found : Client}
  {p : Progress α} {ending ending' : List Exchange → Client → Client → α → Prop}

theorem mono (h : p.Abides terms ending past found)
    (hending : ∀ past found left value, ending past found left value →
      ending' past found left value) : p.Abides terms ending' past found := by
  induction p generalizing past found with
  | done left value => exact hending _ _ _ _ h
  | waits left call resume ih =>
    obtain ⟨hleaves, hasks, hnext⟩ := h
    exact ⟨hleaves, hasks, fun answer hhears next hfinds =>
      ih answer next (hnext answer hhears next hfinds)⟩

theorem bind {next : α → Client → Progress β} {ending' : List Exchange → Client → Client → β → Prop}
    (h : p.Abides terms ending past found)
    (hnext : ∀ past found left value, ending past found left value →
      (next value left).Abides terms ending' past found) :
    (p.bind next).Abides terms ending' past found := by
  induction p generalizing past found with
  | done left value => exact hnext _ _ _ _ h
  | waits left call resume ih =>
    obtain ⟨hleaves, hasks, hrest⟩ := h
    exact ⟨hleaves, hasks, fun answer hhears c hfinds => ih answer c (hrest answer hhears c hfinds)⟩

end Progress.Abides

namespace Job

variable {α β : Type} {terms : Terms} {past : List Exchange} {found c : Client}

def Abides (terms : Terms) (job : Job α) (ending : List Exchange → Client → Client → α → Prop)
    (past : List Exchange) (found c : Client) : Prop :=
  (job c).Abides terms ending past found

theorem Abides.mono {job : Job α} {ending ending' : List Exchange → Client → Client → α → Prop}
    (h : Abides terms job ending past found c)
    (hending : ∀ past found left value, ending past found left value →
      ending' past found left value) : Abides terms job ending' past found c :=
  Progress.Abides.mono h hending

theorem Abides.bind {job : Job α} {next : α → Job β}
    {mid : List Exchange → Client → Client → α → Prop}
    {ending : List Exchange → Client → Client → β → Prop} (h : Abides terms job mid past found c)
    (hnext : ∀ past found c value, mid past found c value →
      Abides terms (next value) ending past found c) :
    Abides terms (job >>= next) ending past found c :=
  Progress.Abides.bind h hnext

variable {ending : List Exchange → Client → Client → β → Prop}

theorem Abides.map {job : Job α} {f : α → β}
    (h : Abides terms job (fun past found left value =>
      ending past found left (f value)) past found c) :
    Abides terms (f <$> job) ending past found c := by
  rw [map_eq_pure_bind]
  exact h.bind fun _ _ _ _ hending => hending

theorem abides_client {next : Client → Job β} (h : Abides terms (next c) ending past found c) :
    Abides terms (client >>= next) ending past found c :=
  h

theorem abides_update {f : Client → Client} {next : Unit → Job β}
    (h : Abides terms (next ()) ending past found (f c)) :
    Abides terms (update f >>= next) ending past found c :=
  h

theorem abides_call {call : Call}
    {ending : List Exchange → Client → Client → Except Failure call.Answer → Prop}
    (hleaves : terms.leaves found c) (hasks : terms.asks past call)
    (hending : ∀ answer, terms.hears past ⟨call, answer⟩ → ∀ next, terms.finds next →
      ending (past ++ [⟨call, answer⟩]) next next answer) :
    Abides terms (Attempt.call call).run ending past found c :=
  ⟨hleaves, hasks, hending⟩

theorem abides_attempt {attempt : Attempt α} {next : α → Attempt β}
    (mid : List Exchange → Client → Client → Except Failure α → Prop)
    {ending : List Exchange → Client → Client → Except Failure β → Prop}
    (h : Abides terms attempt.run mid past found c)
    (hok : ∀ past found c value, mid past found c (.ok value) →
      Abides terms (next value).run ending past found c)
    (herror : ∀ past found c e, mid past found c (.error e) → ending past found c (.error e)) :
    Abides terms (attempt >>= next).run ending past found c := by
  refine Progress.Abides.bind h fun past found c answer hmid => ?_
  cases answer with
  | ok value => exact hok past found c value hmid
  | error e => exact herror past found c e hmid

/-! What holds wherever a job is, from its start to its end. -/

section preserves

variable {inv : List Exchange → Client → Client → Prop}

def Preserves (terms : Terms) (inv : List Exchange → Client → Client → Prop) (job : Job α) : Prop :=
  ∀ past found c, inv past found c →
    job.Abides terms (fun past found left _ => inv past found left) past found c

theorem Preserves.bind {job : Job α} {next : α → Job β} (h : Preserves terms inv job)
    (hnext : ∀ value, Preserves terms inv (next value)) : Preserves terms inv (job >>= next) :=
  fun past found c hinv => (h past found c hinv).bind
    fun past found c value hmid => hnext value past found c hmid

theorem Preserves.attempt {attempt : Attempt α} {next : α → Attempt β}
    (h : Preserves terms inv attempt.run) (hnext : ∀ value, Preserves terms inv (next value).run) :
    Preserves terms inv (attempt >>= next).run :=
  fun past found c hinv => abides_attempt _ (h past found c hinv)
    (fun past found c value hmid => hnext value past found c hmid) fun _ _ _ _ hmid => hmid

theorem preserves_pure (value : α) : Preserves terms inv (pure value) :=
  fun _ _ _ hinv => hinv

theorem preserves_client {next : Client → Job β} (h : ∀ c, Preserves terms inv (next c)) :
    Preserves terms inv (client >>= next) :=
  fun past found c => h c past found c

theorem preserves_update {f : Client → Client}
    (h : ∀ past found c, inv past found c → inv past found (f c)) :
    Preserves terms inv (update f) :=
  h

theorem Preserves.map {attempt : Attempt α} {f : α → β} (h : Preserves terms inv attempt.run) :
    Preserves terms inv (f <$> attempt).run := by
  rw [map_eq_pure_bind]
  exact h.attempt fun _ => preserves_pure _

end preserves

end Job

/-! ### Operations under way -/

theorem getElem?_concat {α : Type} (as : List α) (a : α) (n : Nat) :
    (as ++ [a])[n]? = if n = as.length then some a else as[n]? := by
  rcases lt_trichotomy n as.length with hlt | rfl | hlt
  · rw [if_neg hlt.ne, List.getElem?_append_left hlt]
  · rw [if_pos rfl, List.getElem?_concat_length]
  · rw [if_neg hlt.ne', List.getElem?_eq_none hlt.le, List.getElem?_eq_none]
    rw [List.length_append]
    exact hlt

theorem getElem?_modified {α : Type} (as : List α) (f : α → α) (n m : Nat) :
    (as.modify n f)[m]? = if m = n then as[m]?.map f else as[m]? := by
  rw [List.getElem?_modify]
  cases as[m]? with
  | none => simp
  | some a => by_cases h : n = m <;> simp [h, eq_comm]

namespace Stage

variable {terms : Terms} {ending : List Exchange → Client → Client → Outcome → Prop}
  {past : List Exchange} {found : Client}

def Abides (terms : Terms) (ending : List Exchange → Client → Client → Outcome → Prop)
    (past : List Exchange) : Stage → Prop
  | sent call resume => terms.asks past call ∧
      ∀ answer, terms.hears past ⟨call, answer⟩ → ∀ next, terms.finds next →
        (resume answer next).Abides terms ending (past ++ [⟨call, answer⟩]) next
  | answered _ answer resume => ∀ next, terms.finds next →
      (resume answer next).Abides terms ending past next
  | ended outcome => ∃ found left, ending past found left outcome

def Leaves (terms : Terms) (ending : List Exchange → Client → Client → Outcome → Prop)
    (past : List Exchange) (found left : Client) : Stage → Prop
  | ended outcome => ending past found left outcome
  | _ => terms.leaves found left

theorem abides_ofProgress {p : Progress Outcome} (h : p.Abides terms ending past found) :
    (ofProgress p).1.Abides terms ending past ∧
      (ofProgress p).1.Leaves terms ending past found (ofProgress p).2 := by
  cases p with
  | done left outcome => exact ⟨⟨found, left, h⟩, h⟩
  | waits left call resume => exact ⟨h.2, h.1⟩

end Stage

/-- A call of an operation with its answer, and the authority as the call found it. -/
structure Record (σ : Type) where
  index : Nat
  exchange : Exchange
  authority : σ

def exchangesOf {σ : Type} (index : Nat) (records : List (Record σ)) : List Exchange :=
  (records.filter (·.index = index)).map (·.exchange)

namespace Scene

variable {σ : Type} {authority : Authority σ} {scene : Scene σ} {schedule : List Event}
  {event : Event}

def record? (authority : Authority σ) (scene : Scene σ) : Event → Option (Record σ)
  | .serve index =>
    match scene.stage? index with
    | some (.sent call _) =>
      some ⟨index, ⟨call, (authority scene.authority call).1⟩, scene.authority⟩
    | _ => none
  | .lose index failure =>
    match scene.stage? index with
    | some (.sent call _) => some ⟨index, ⟨call, .error failure⟩, scene.authority⟩
    | _ => none
  | _ => none

def records (authority : Authority σ) (scene : Scene σ) : List Event → List (Record σ)
  | [] => []
  | event :: schedule =>
    (scene.record? authority event).toList ++
      records authority (scene.step authority event) schedule

theorem run_append (rest : List Event) :
    scene.run authority (schedule ++ rest) = (scene.run authority schedule).run authority rest :=
  List.foldl_append ..

theorem records_append (rest : List Event) :
    scene.records authority (schedule ++ rest) =
      scene.records authority schedule ++
        (scene.run authority schedule).records authority rest := by
  induction schedule generalizing scene with
  | nil => rfl
  | cons event schedule ih =>
    simp only [List.cons_append, records]
    rw [ih, List.append_assoc]
    rfl

theorem records_concat :
    scene.records authority (schedule ++ [event]) = scene.records authority schedule ++
      ((scene.run authority schedule).record? authority event).toList := by
  rw [records_append]
  exact congrArg _ (List.append_nil _)

theorem run_concat :
    scene.run authority (schedule ++ [event]) =
      (scene.run authority schedule).step authority event :=
  run_append [event]

inductive Changes (authority : Authority σ) (scene : Scene σ) :
    Event → Option (Record σ) → Scene σ → Prop
  | idle {event : Event} : Changes authority scene event none scene
  | started (operation : Operation) : Changes authority scene (.start operation) none
      { scene with
        client := (Stage.ofProgress (operation.job scene.client)).2
        activities := scene.activities ++
          [⟨operation, (Stage.ofProgress (operation.job scene.client)).1⟩] }
  | answered {event : Event} {index : Nat} {call : Call}
      {resume : Except Failure call.Answer → Client → Progress Outcome}
      (answer : Except Failure call.Answer) (s : σ)
      (sent : scene.stage? index = some (.sent call resume))
      (served : event = .serve index ∧ authority scene.authority call = (answer, s) ∨
        ∃ e, event = .lose index e ∧ answer = .error e ∧ s = scene.authority) :
      Changes authority scene event (some ⟨index, ⟨call, answer⟩, scene.authority⟩)
        ({ scene with authority := s }.advance index (.answered call answer resume))
  | resumed {index : Nat} {call : Call} {answer : Except Failure call.Answer}
      {resume : Except Failure call.Answer → Client → Progress Outcome}
      (told : scene.stage? index = some (.answered call answer resume)) :
      Changes authority scene (.deliver index) none
        ({ scene with client := (Stage.ofProgress (resume answer scene.client)).2 }.advance index
          (Stage.ofProgress (resume answer scene.client)).1)

theorem changes (authority : Authority σ) (scene : Scene σ) (event : Event) :
    Changes authority scene event (scene.record? authority event) (scene.step authority event) := by
  cases event with
  | start operation => exact .started operation
  | serve index =>
    simp only [record?, step]
    cases hstage : scene.stage? index with
    | none => exact .idle
    | some stage =>
      cases stage with
      | sent call resume => exact .answered _ _ hstage (.inl ⟨rfl, rfl⟩)
      | answered | ended => exact .idle
  | lose index failure =>
    simp only [record?, step]
    cases hstage : scene.stage? index with
    | none => exact .idle
    | some stage =>
      cases stage with
      | sent call resume => exact .answered _ _ hstage (.inr ⟨failure, rfl, rfl, rfl⟩)
      | answered | ended => exact .idle
  | deliver index =>
    simp only [record?, step]
    cases hstage : scene.stage? index with
    | none => exact .idle
    | some stage =>
      cases stage with
      | answered call answer resume => exact .resumed hstage
      | sent | ended => exact .idle

theorem getElem?_advance (index : Nat) (stage : Stage) (other : Nat) :
    (scene.advance index stage).activities[other]? =
      if other = index then scene.activities[other]?.map ({ · with stage })
      else scene.activities[other]? :=
  getElem?_modified ..

theorem getElem?_advance_self {index : Nat} {operation : Operation} {stage stage' : Stage}
    (hat : scene.activities[index]? = some ⟨operation, stage⟩) :
    (scene.advance index stage').activities[index]? = some ⟨operation, stage'⟩ := by
  rw [getElem?_advance, if_pos rfl, hat]
  rfl

theorem getElem?_started (a : Activity) (other : Nat) :
    (scene.activities ++ [a])[other]? =
      if other = scene.activities.length then some a else scene.activities[other]? :=
  getElem?_concat ..

theorem stage?_eq_some {index : Nat} {stage : Stage} (h : scene.stage? index = some stage) :
    ∃ operation, scene.activities[index]? = some ⟨operation, stage⟩ := by
  obtain ⟨⟨operation, stage'⟩, hactivity, rfl⟩ := Option.map_eq_some_iff.1 h
  exact ⟨operation, hactivity⟩

theorem Changes.forth {record : Option (Record σ)} {scene' : Scene σ}
    (h : Changes authority scene event record scene') {index : Nat} {a : Activity}
    (hat : scene.activities[index]? = some a) :
    ∃ stage, scene'.activities[index]? = some ⟨a.operation, stage⟩ ∧
      (stage.outcome? = none → a.stage.outcome? = none) := by
  cases h with
  | idle => exact ⟨a.stage, hat, id⟩
  | started operation =>
    have hlt := (List.getElem?_eq_some_iff.1 hat).1
    exact ⟨a.stage, (List.getElem?_append_left hlt).trans hat, id⟩
  | @answered _ i call resume answer s sent =>
    rw [getElem?_advance]
    by_cases hi : index = i
    · subst hi
      obtain ⟨operation, hsent⟩ := stage?_eq_some sent
      obtain rfl := Option.some.inj (hat.symm.trans hsent)
      exact ⟨_, by rw [if_pos rfl]; exact congrArg _ hat, fun _ => rfl⟩
    · exact ⟨a.stage, by rw [if_neg hi]; exact hat, id⟩
  | @resumed i call answer resume told =>
    rw [getElem?_advance]
    by_cases hi : index = i
    · subst hi
      obtain ⟨operation, htold⟩ := stage?_eq_some told
      obtain rfl := Option.some.inj (hat.symm.trans htold)
      exact ⟨_, by rw [if_pos rfl]; exact congrArg _ hat, fun _ => rfl⟩
    · exact ⟨a.stage, by rw [if_neg hi]; exact hat, id⟩

theorem Changes.recorded {records : List (Record σ)} {record : Option (Record σ)} {scene' : Scene σ}
    (h : Changes authority scene event record scene')
    (hrecords : ∀ record ∈ records, record.index < scene.activities.length) :
    ∀ r ∈ records ++ record.toList, r.index < scene'.activities.length := by
  have hadvance : ∀ index stage,
      (scene.advance index stage).activities.length = scene.activities.length :=
    fun _ _ => List.length_modify ..
  intro r hmem
  rcases List.mem_append.1 hmem with hmem | hmem
  · have hlt := hrecords r hmem
    cases h with
    | idle => exact hlt
    | started =>
      rw [List.length_append]
      exact Nat.lt_add_right _ hlt
    | answered => exact hlt.trans_eq (hadvance ..).symm
    | resumed => exact hlt.trans_eq (hadvance ..).symm
  · cases h with
    | idle | started | resumed => cases hmem
    | answered answer s sent =>
      obtain rfl := List.mem_singleton.1 hmem
      obtain ⟨operation, hsent⟩ := stage?_eq_some sent
      exact (List.getElem?_eq_some_iff.1 hsent).1.trans_eq (hadvance ..).symm

theorem recorded_run (authority : Authority σ) (scene : Scene σ) (schedule : List Event) :
    ∀ record ∈ scene.records authority schedule,
      record.index < (scene.run authority schedule).activities.length := by
  induction schedule using List.reverseRecOn with
  | nil => exact fun _ hmem => absurd hmem List.not_mem_nil
  | append_singleton schedule event ih =>
    rw [run_concat, records_concat]
    exact (changes authority _ event).recorded ih

end Scene

section exchangesOf

variable {σ : Type} {index : Nat} {records : List (Record σ)}

theorem exchangesOf_append (rest : List (Record σ)) :
    exchangesOf index (records ++ rest) = exchangesOf index records ++ exchangesOf index rest := by
  simp only [exchangesOf, List.filter_append, List.map_append]

theorem exchangesOf_concat (record : Record σ) :
    exchangesOf index (records ++ [record]) = exchangesOf index records ++
      if record.index = index then [record.exchange] else [] := by
  rw [exchangesOf_append]
  by_cases h : record.index = index <;> simp [exchangesOf, h]

theorem exchangesOf_fresh (hfresh : ∀ record ∈ records, record.index < index) :
    exchangesOf index records = [] := by
  simp only [exchangesOf, List.map_eq_nil_iff, List.filter_eq_nil_iff]
  exact fun record hmem => by simpa using (hfresh record hmem).ne

end exchangesOf

theorem Scene.fresh_run {σ : Type} (authority : Authority σ) (scene : Scene σ)
    (schedule : List Event) : exchangesOf (scene.run authority schedule).activities.length
      (scene.records authority schedule) = [] :=
  exchangesOf_fresh (recorded_run authority scene schedule)

end CrossConnect
