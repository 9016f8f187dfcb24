import CrossConnect.Proofs.Client.Course

/-!
Overlapping operations while structures are selected and let go of. What an operation does after an
answer leaves the editor as it is when another structure is selected by then, but for the chosen
ports that a merge lets go of; and the rows are those of the selected structure unless an operation
of two parts has been misled.
-/
namespace CrossConnect

open Client

/-! ### Stages -/

section stages

variable {operation : Operation} {course : Course}

def Operation.Asks (operation : Operation) (course : Course) (call : Call) : Prop :=
  call.isWrite = true → operation.mayStray = true ∨ course.atHome = true

def Operation.GoesOn (operation : Operation) (course : Course) (p : Progress Outcome) : Prop :=
  p.Follows course.home operation.mayStray (fun course left _ => operation.Rests course left) course

def Stage.Follows (operation : Operation) (course : Course) : Stage → Prop
  | sent call resume => operation.Asks course call ∧ ∀ answer next,
      operation.GoesOn (course.resumed ⟨call, answer⟩ next) (resume answer next)
  | answered call answer resume => operation.Asks course call ∧ ∀ next,
      operation.GoesOn (course.resumed ⟨call, answer⟩ next) (resume answer next)
  | ended _ => True

theorem Stage.follows_ofProgress {p : Progress Outcome} (h : operation.GoesOn course p) :
    (ofProgress p).1.Follows operation course ∧ operation.Rests course (ofProgress p).2 ∧
      ((ofProgress p).1.outcome? = none → course.Going course.home (ofProgress p).2) := by
  cases p with
  | done left outcome => exact ⟨trivial, h, nofun⟩
  | waits left call resume => exact ⟨h.2, h.1.rests operation, fun _ => h.1⟩

theorem Course.misled_of_unstrayed (h : course.strayed = false) : course.misled = false := by
  induction course with
  | begun c => rfl
  | resumed course e c ih =>
    have hbefore : course.strayed = false := by
      simp only [strayed, Bool.or_eq_false_iff] at h
      exact h.1
    rw [misled, ih hbefore, h]
    rfl

/-- What is known of an operation under way, given what it has come across and the client. -/
structure Activity.Charted (a : Activity) (course : Course) (c : Client) : Prop where
  follows : a.stage.Follows a.operation course
  pinned : a.holdsSlot = true → course.atHome = true ∧ c.editor.structureId = course.home
  unstrayed : a.operation.inTwoParts = false → course.strayed = false

namespace Activity.Charted

variable {c c' : Client} {call : Call} {answer : Except Failure call.Answer}
  {resume : Except Failure call.Answer → Client → Progress Outcome}

theorem begun (operation : Operation) (c : Client) :
    Charted ⟨operation, (Stage.ofProgress (operation.job c)).1⟩ (.begun c)
        (Stage.ofProgress (operation.job c)).2 ∧
      operation.Rests (.begun c) (Stage.ofProgress (operation.job c)).2 := by
  have hjob : operation.GoesOn (.begun c) (operation.job c) := follows_job operation c
  obtain ⟨hfollows, hrests, hgoing⟩ := Stage.follows_ofProgress hjob
  refine ⟨⟨hfollows, fun hholds => ?_, fun _ => rfl⟩, hrests⟩
  have hpending := (Bool.and_eq_true_iff.1 hholds).2
  exact ⟨decide_eq_true rfl, (hgoing (Option.isNone_iff_eq_none.1 hpending)).structureId⟩

theorem answered (h : Charted ⟨operation, .sent call resume⟩ course c)
    (answer : Except Failure call.Answer) :
    Charted ⟨operation, .answered call answer resume⟩ course c :=
  ⟨⟨h.follows.1, h.follows.2 answer⟩, h.pinned, h.unstrayed⟩

theorem moved {a : Activity} (h : a.Charted course c)
    (hsame : a.holdsSlot = true → c'.editor.structureId = c.editor.structureId) :
    a.Charted course c' :=
  ⟨h.follows, fun hholds => ⟨(h.pinned hholds).1, (hsame hholds).trans (h.pinned hholds).2⟩,
    h.unstrayed⟩

theorem pinned_answered (h : Charted ⟨operation, .answered call answer resume⟩ course c)
    (hexclusive : operation.isExclusive = true) :
    course.atHome = true ∧ c.editor.structureId = course.home :=
  h.pinned (by rw [Activity.holdsSlot, hexclusive]; rfl)

theorem strayed_resumed (h : Charted ⟨operation, .answered call answer resume⟩ course c)
    (htwo : operation.inTwoParts = false) :
    (course.resumed ⟨call, answer⟩ c).strayed = false := by
  have hhome : call.isWrite = true → course.atHome = true := fun hwrite => by
    refine (h.follows.1 hwrite).elim (fun hstray => ?_) id
    simp only [Operation.mayStray, htwo, Bool.or_false] at hstray
    exact (h.pinned_answered (Operation.isExclusive_of_isFill hstray)).1
  rw [Course.strayed, h.unstrayed htwo, Bool.false_or]
  cases hwrite : call.isWrite with
  | false => rfl
  | true =>
    rw [hhome hwrite]
    rfl

theorem resumed (h : Charted ⟨operation, .answered call answer resume⟩ course c) :
    Charted ⟨operation, (Stage.ofProgress (resume answer c)).1⟩ (course.resumed ⟨call, answer⟩ c)
        (Stage.ofProgress (resume answer c)).2 ∧
      operation.Rests (course.resumed ⟨call, answer⟩ c) (Stage.ofProgress (resume answer c)).2 := by
  obtain ⟨hfollows, hrests, hgoing⟩ := Stage.follows_ofProgress (h.follows.2 c)
  refine ⟨⟨hfollows, fun hholds => ?_, h.strayed_resumed⟩, hrests⟩
  obtain ⟨hexclusive, hpending⟩ := Bool.and_eq_true_iff.1 hholds
  have hhome := (h.pinned_answered hexclusive).2
  exact ⟨decide_eq_true hhome,
    (hgoing (Option.isNone_iff_eq_none.1 hpending)).structureId.trans hhome⟩

end Activity.Charted

end stages

namespace Scene

variable {σ : Type} {authority : Authority σ} {scene : Scene σ} {past : List Course}
  {records : List (Record σ)} {schedule : List Event} {event : Event} {index : Nat}

def note (scene : Scene σ) (past : List Course) : Event → List Course
  | .start _ => past ++ [.begun scene.client]
  | .deliver index =>
    match scene.stage? index with
    | some (.answered call answer _) => past.modify index (·.resumed ⟨call, answer⟩ scene.client)
    | _ => past
  | _ => past

/-- What the operations of a run have come across, in the order of their start. -/
def courses (authority : Authority σ) (scene : Scene σ) (schedule : List Event) : List Course :=
  (schedule.foldl (fun (scene, past) event => (scene.step authority event, scene.note past event))
    (scene, [])).2

theorem courses_concat (authority : Authority σ) (scene : Scene σ) (schedule : List Event)
    (event : Event) : scene.courses authority (schedule ++ [event]) =
      (scene.run authority schedule).note (scene.courses authority schedule) event := by
  have hrun : ∀ schedule : List Event, (schedule.foldl (fun (scene, past) event =>
      (scene.step authority event, scene.note past event)) (scene, [])).1 =
        scene.run authority schedule := fun schedule => by
    induction schedule using List.reverseRecOn with
    | nil => rfl
    | append_singleton schedule event ih =>
      rw [run_concat, List.foldl_append, ← ih]
      rfl
  rw [courses, List.foldl_append, ← hrun]
  rfl

structure Charted (scene : Scene σ) (past : List Course) : Prop where
  length : past.length = scene.activities.length
  each : ∀ {index : Nat} {a : Activity} {course : Course}, scene.activities[index]? = some a →
    past[index]? = some course → a.Charted course scene.client

theorem Advances.structureId {scene' : Scene σ} {operation : Operation}
    (h : scene.Advances scene' index operation) {other : Nat} (hne : other ≠ index)
    (hholds : scene.holds other = true) :
    scene'.client.editor.structureId = scene.client.editor.structureId := by
  simp only [Editor.structureId]
  rw [h.selected (fun heq => absurd heq hne) fun _ => hholds]

theorem Charted.started (h : scene.Charted past) (hguarded : scene.Guarded records)
    (hfresh : exchangesOf scene.activities.length records = []) (operation : Operation) :
    (scene.step authority (.start operation)).Charted (past ++ [.begun scene.client]) := by
  have hadvances := (hguarded.started hfresh operation).1
  refine ⟨by simp [step, h.length], fun {index a course} hat hcourse => ?_⟩
  rw [getElem?_concat, h.length] at hcourse
  by_cases hnew : index = scene.activities.length
  · subst hnew
    obtain ⟨rfl⟩ := Option.some.inj ((if_pos rfl).symm.trans hcourse)
    obtain ⟨rfl⟩ := Option.some.inj ((List.getElem?_concat_length ..).symm.trans hat)
    exact (Activity.Charted.begun operation scene.client).1
  · rw [if_neg hnew] at hcourse
    have hbefore := (hadvances.others index hnew).symm.trans hat
    exact (h.each hbefore hcourse).moved fun hholds =>
      hadvances.structureId hnew ((holds_of_get hbefore).trans hholds)

theorem Charted.resumed (h : scene.Charted past) (hguarded : scene.Guarded records) {call : Call}
    {answer : Except Failure call.Answer}
    {resume : Except Failure call.Answer → Client → Progress Outcome}
    (htold : scene.stage? index = some (.answered call answer resume)) :
    ({ scene with client := (Stage.ofProgress (resume answer scene.client)).2 }.advance index
        (Stage.ofProgress (resume answer scene.client)).1).Charted
      (past.modify index (·.resumed ⟨call, answer⟩ scene.client)) := by
  obtain ⟨operation, htold⟩ := stage?_eq_some htold
  have hadvances := (hguarded.resumed htold).1
  refine ⟨by simp [advance, h.length], fun {other a course} hat hcourse => ?_⟩
  rw [getElem?_modified] at hcourse
  by_cases hne : other = index
  · subst hne
    rw [if_pos rfl] at hcourse
    obtain ⟨before, hbefore, rfl⟩ := Option.map_eq_some_iff.1 hcourse
    obtain rfl := Option.some.inj ((getElem?_advance_self htold).symm.trans hat)
    exact (h.each htold hbefore).resumed.1
  · rw [if_neg hne] at hcourse
    have hsame := (hadvances.others other hne).symm.trans hat
    exact (h.each hsame hcourse).moved fun hholds =>
      hadvances.structureId hne ((holds_of_get hsame).trans hholds)

theorem Charted.answered (h : scene.Charted past) {call : Call}
    {resume : Except Failure call.Answer → Client → Progress Outcome}
    (hsent : scene.stage? index = some (.sent call resume)) (answer : Except Failure call.Answer)
    (s : σ) :
    ({ scene with authority := s }.advance index (.answered call answer resume)).Charted past := by
  obtain ⟨operation, hsent⟩ := stage?_eq_some hsent
  refine ⟨by simp [advance, h.length], fun {other a course} hat hcourse => ?_⟩
  by_cases hne : other = index
  · subst hne
    obtain rfl := Option.some.inj ((getElem?_advance_self hsent).symm.trans hat)
    exact (h.each hsent hcourse).answered answer
  · rw [getElem?_advance, if_neg hne] at hat
    exact h.each hat hcourse

theorem Charted.step (h : scene.Charted past) (hguarded : scene.Guarded records)
    (hfresh : exchangesOf scene.activities.length records = []) (event : Event) :
    (scene.step authority event).Charted (scene.note past event) := by
  cases event with
  | start operation => exact h.started hguarded hfresh operation
  | serve index =>
    simp only [Scene.step, note]
    split
    next hsent => exact h.answered hsent _ _
    next => exact h
  | lose index failure =>
    simp only [Scene.step, note]
    split
    next hsent => exact h.answered hsent _ _
    next => exact h
  | deliver index =>
    simp only [Scene.step, note]
    cases hstage : scene.stage? index with
    | none => exact h
    | some stage =>
      cases stage with
      | answered call answer resume => exact h.resumed hguarded hstage
      | sent | ended => exact h

theorem charted_run (authority : Authority σ) (hidle : scene.activities = [])
    (hfree : scene.client.slot.taken = false) (schedule : List Event) :
    (scene.run authority schedule).Charted (scene.courses authority schedule) := by
  induction schedule using List.reverseRecOn with
  | nil =>
    refine ⟨congrArg List.length hidle.symm, fun hat => ?_⟩
    have hat : scene.activities[_]? = some _ := hat
    rw [hidle] at hat
    cases hat
  | append_singleton schedule event ih =>
    rw [run_concat, courses_concat]
    exact ih.step (guarded_run authority hidle hfree schedule) (fresh_run ..) event

/-! ### While another structure is selected -/

/-- What an operation does after an answer leaves the editor as it is when the structure of its
beginning is not selected by then; a merge that was listed lets go of the chosen ports all the
same. -/
theorem editor_kept_elsewhere (authority : Authority σ) (start : Scene σ)
    (hidle : start.activities = []) (hfree : start.client.slot.taken = false)
    (schedule : List Event) {index : Nat} {course : Course}
    (hcourse : (start.courses authority schedule)[index]? = some course)
    (haway : (start.run authority schedule).client.editor.structureId ≠ course.home) :
    let scene := start.run authority schedule
    let after := scene.step authority (.deliver index)
    after.client.editor = scene.client.editor ∨
      (∃ id rows resume, scene.activities[index]? =
        some ⟨.mergeSelected, .answered (.rowsOf id) (.ok rows) resume⟩) ∧
      after.client.editor = { scene.client.editor with mergeMode := false, selection := [] } := by
  intro scene after
  have hcharted : scene.Charted (start.courses authority schedule) :=
    charted_run authority hidle hfree schedule
  cases hstage : scene.stage? index with
  | none =>
    refine .inl (congrArg (·.client.editor) (show after = scene from ?_))
    simp only [after, step, hstage]
  | some stage =>
    cases stage with
    | sent | ended =>
      refine .inl (congrArg (·.client.editor) (show after = scene from ?_))
      simp only [after, step, hstage]
    | answered call answer resume =>
      obtain ⟨operation, htold⟩ := stage?_eq_some hstage
      have hactivity := hcharted.each htold hcourse
      have hrests := hactivity.resumed.2
      have hafter : after.client = (Stage.ofProgress (resume answer scene.client)).2 := by
        simp only [after, step, hstage]
        rfl
      have hcalm : operation.isExclusive = false := Bool.eq_false_iff.2 fun hexclusive =>
        haway (hactivity.pinned_answered hexclusive).2
      rw [hafter]
      refine (hrests.editor hcalm (decide_eq_false haway)).imp_right ?_
      rintro ⟨rfl, hlisted, heditor⟩
      refine ⟨?_, heditor⟩
      cases call with
      | rowsOf id =>
        cases answer with
        | ok rows => exact ⟨id, rows, resume, htold⟩
        | error e => cases hlisted
      | _ => cases hlisted

def otherTray : Structure :=
  { Server.smallTray with id := ⟨⟨7⟩⟩, name := "panel", slotStart := 2, slotEnd := 2 }

def twoTrays : Server :=
  (Server.ofPlan {} { Server.smallPlan with structures := [Server.smallTray, otherTray] }
    (.numbered 0 0)).serveAll
      [.call (.place ⟨otherTray.id, ⟨3, .a⟩, (Server.smallFiber 3).ref⟩)]

def freshStart : Scene Server :=
  ⟨.ofSettings {} (.numbered 1 0), twoTrays, []⟩

def chosen (index : Nat) (record : Structure) : List Event :=
  [.start (.select record), .serve index, .deliver index, .serve index, .deliver index]

def smallConnect : Operation := .dropFiber ⟨1, .a⟩ ⟨Server.smallFiber 1, "cable"⟩

theorem editor_kept_after_connect :
    let schedule := chosen 0 Server.smallTray ++ [.start smallConnect, .serve 1] ++
      chosen 2 otherTray
    let scene := freshStart.run Server.answer schedule
    let after := scene.step Server.answer (.deliver 1)
    scene.client.editor.structureId = some otherTray.id ∧ scene.client.editor.rows.length = 1 ∧
      after.client.editor = scene.client.editor ∧
      (after.activities[1]?.bind fun a => a.stage.outcome?).isSome = true := by
  intro schedule scene after
  obtain ⟨course, hcourse⟩ : ∃ course,
      (freshStart.courses Server.answer schedule)[1]? = some course :=
    Option.isSome_iff_exists.1 (by decide +kernel)
  have hhome : course.home = some Server.smallTray.id := by
    have hhomes : (freshStart.courses Server.answer schedule)[1]?.map Course.home =
        some (some Server.smallTray.id) := by decide +kernel
    rw [hcourse] at hhomes
    exact Option.some.inj hhomes
  have hselected : scene.client.editor.structureId = some otherTray.id := by decide +kernel
  have haway : scene.client.editor.structureId ≠ course.home := by
    rw [hselected, hhome]
    decide
  have hkept := editor_kept_elsewhere Server.answer freshStart rfl rfl schedule hcourse haway
  have hoperation : scene.activities[1]?.map (·.operation) = some smallConnect := by decide +kernel
  refine ⟨hselected, by decide +kernel, hkept.resolve_right ?_, by decide +kernel⟩
  rintro ⟨⟨id, rows, resume, hat⟩, -⟩
  rw [hat] at hoperation
  cases Option.some.inj hoperation

/-- While the ports of a merge are listed anew, another structure is selected and a port of it
chosen: the answer to the merge of the first structure lets go of that choice. -/
theorem choice_lost_elsewhere :
    let choice : List Event := [.start .toggleMergeMode, .start (.togglePort ⟨1, .a⟩),
      .start (.togglePort ⟨2, .a⟩), .start .mergeSelected, .serve 4, .deliver 4, .serve 4]
    let schedule := chosen 0 Server.smallTray ++ choice ++ chosen 5 otherTray ++
      [.start .toggleMergeMode, .start (.togglePort ⟨3, .b⟩)]
    let scene := freshStart.run Server.answer schedule
    let after := scene.step Server.answer (.deliver 4)
    (freshStart.courses Server.answer schedule)[4]?.map Course.home =
        some (some Server.smallTray.id) ∧
      scene.client.editor.structureId = some otherTray.id ∧
      scene.client.editor.selection = [⟨3, .b⟩] ∧
      after.client.editor.structureId = some otherTray.id ∧
      after.client.editor.selection = [] ∧ after.client.editor.mergeMode = false := by
  decide +kernel

/-! ### Whose rows are shown -/

theorem Stage.ofProgress_ne_answered (p : Progress Outcome) (call : Call)
    (answer : Except Failure call.Answer)
    (resume : Except Failure call.Answer → Client → Progress Outcome) :
    (Stage.ofProgress p).1 ≠ .answered call answer resume := by
  cases p <;> nofun

structure Owned (scene : Scene Server) (past : List Course) : Prop where
  rowsAt : scene.authority.registry.RowsAt
  owns : scene.client.editor.Owns
  told : ∀ {index : Nat} {operation : Operation} {call : Call} {answer : Except Failure call.Answer}
    {resume : Except Failure call.Answer → Client → Progress Outcome},
    scene.activities[index]? = some ⟨operation, .answered call answer resume⟩ → call.Faithful answer
  clean : ∀ course ∈ past, course.Clean

section owned

variable {scene : Scene Server} {past : List Course}

theorem Owned.started (h : scene.Owned past) (operation : Operation) :
    (scene.step Server.answer (.start operation)).Owned (past ++ [.begun scene.client]) := by
  have hrests := (Activity.Charted.begun operation scene.client).2
  refine ⟨h.rowsAt, hrests.owns h.owns, fun {index _ _ _ _} hat => ?_, fun course hmem => ?_⟩
  · have hat := (getElem?_started _ index).symm.trans hat
    split at hat
    · have hstage := congrArg Activity.stage (Option.some.inj hat)
      exact absurd hstage (Stage.ofProgress_ne_answered _ _ _ _)
    · exact h.told hat
  · rcases List.mem_append.1 hmem with hold | hnew
    · exact h.clean course hold
    · rw [List.mem_singleton.1 hnew]
      exact h.owns

theorem Owned.answered (h : scene.Owned past) {call : Call}
    {resume : Except Failure call.Answer → Client → Progress Outcome}
    (hsent : scene.stage? index = some (.sent call resume)) {answer : Except Failure call.Answer}
    {s : Server} (hrows : s.registry.RowsAt) (hanswer : call.Faithful answer) :
    ({ scene with authority := s }.advance index (.answered call answer resume)).Owned past := by
  obtain ⟨operation, hsent⟩ := stage?_eq_some hsent
  refine ⟨hrows, h.owns, fun {other _ _ _ _} hat => ?_, h.clean⟩
  by_cases hne : other = index
  · subst hne
    have hsame := Option.some.inj ((getElem?_advance_self hsent).symm.trans hat)
    cases hsame
    exact hanswer
  · rw [getElem?_advance, if_neg hne] at hat
    exact h.told hat

theorem Owned.resumed (h : scene.Owned past) (hcharted : scene.Charted past) {call : Call}
    {answer : Except Failure call.Answer}
    {resume : Except Failure call.Answer → Client → Progress Outcome}
    (htold : scene.stage? index = some (.answered call answer resume))
    (hmisled : ∀ course ∈ past.modify index (·.resumed ⟨call, answer⟩ scene.client),
      course.misled = false) :
    ({ scene with client := (Stage.ofProgress (resume answer scene.client)).2 }.advance index
        (Stage.ofProgress (resume answer scene.client)).1).Owned
      (past.modify index (·.resumed ⟨call, answer⟩ scene.client)) := by
  obtain ⟨operation, htold⟩ := stage?_eq_some htold
  obtain ⟨course, hcourse⟩ : ∃ course, past[index]? = some course := by
    refine ⟨_, List.getElem?_eq_getElem ?_⟩
    rw [hcharted.length]
    exact (List.getElem?_eq_some_iff.1 htold).1
  have hresumed : (past.modify index (·.resumed ⟨call, answer⟩ scene.client))[index]? =
      some (course.resumed ⟨call, answer⟩ scene.client) := by
    rw [getElem?_modified, if_pos rfl, hcourse]
    rfl
  have hclean : (course.resumed ⟨call, answer⟩ scene.client).Clean :=
    ⟨h.clean course (List.mem_of_getElem? hcourse), h.told htold, h.owns,
      hmisled _ (List.mem_of_getElem? hresumed)⟩
  refine ⟨h.rowsAt, (hcharted.each htold hcourse).resumed.2.owns hclean,
    fun {other _ _ _ _} hat => ?_, fun other hmem => ?_⟩
  · by_cases hne : other = index
    · subst hne
      have hsame := Option.some.inj ((getElem?_advance_self htold).symm.trans hat)
      exact absurd (congrArg Activity.stage hsame) (Stage.ofProgress_ne_answered _ _ _ _)
    · rw [getElem?_advance, if_neg hne] at hat
      exact h.told hat
  · obtain ⟨i, hi⟩ := List.mem_iff_getElem?.1 hmem
    by_cases hne : i = index
    · subst hne
      obtain rfl := Option.some.inj (hresumed.symm.trans hi)
      exact hclean
    · rw [getElem?_modified, if_neg hne] at hi
      exact h.clean other (List.mem_of_getElem? hi)

theorem Owned.step (h : scene.Owned past) (hcharted : scene.Charted past) (event : Event)
    (hmisled : ∀ course ∈ scene.note past event, course.misled = false) :
    (scene.step Server.answer event).Owned (scene.note past event) := by
  cases event with
  | start operation => exact h.started operation
  | serve index =>
    simp only [Scene.step, note]
    split
    next call resume hsent =>
      obtain ⟨hrows, hanswer⟩ := Server.rowsAt_answer h.rowsAt call
      exact h.answered hsent hrows hanswer
    next => exact h
  | lose index failure =>
    simp only [Scene.step, note]
    split
    next call resume hsent => exact h.answered hsent h.rowsAt (call.faithful_error failure)
    next => exact h
  | deliver index =>
    simp only [Scene.step, note] at hmisled ⊢
    cases hstage : scene.stage? index with
    | none => exact h
    | some stage =>
      cases stage with
      | answered call answer resume =>
        rw [hstage] at hmisled
        exact h.resumed hcharted hstage hmisled
      | sent | ended => exact h

end owned

theorem mem_note {course : Course} (hmem : course ∈ past) (event : Event) :
    ∃ course' ∈ scene.note past event, course'.misled = false → course.misled = false := by
  cases event with
  | start operation => exact ⟨course, List.mem_append_left _ hmem, id⟩
  | serve | lose => exact ⟨course, hmem, id⟩
  | deliver index =>
    simp only [note]
    split
    next call answer resume htold =>
      obtain ⟨i, hi⟩ := List.mem_iff_getElem?.1 hmem
      have hmodified : (past.modify index (·.resumed ⟨call, answer⟩ scene.client))[i]? =
          some (if i = index then course.resumed ⟨call, answer⟩ scene.client else course) := by
        rw [getElem?_modified, hi]
        split <;> rfl
      refine ⟨_, List.mem_of_getElem? hmodified, fun hmisled => ?_⟩
      split at hmisled
      · simp only [Course.misled, Bool.or_eq_false_iff] at hmisled
        exact hmisled.1
      · exact hmisled
    next => exact ⟨course, hmem, id⟩

theorem owned_run {start : Scene Server} (hidle : start.activities = [])
    (hfree : start.client.slot.taken = false) (hrows : start.authority.registry.RowsAt)
    (howns : start.client.editor.Owns) (schedule : List Event)
    (hmisled : ∀ course ∈ start.courses Server.answer schedule, course.misled = false) :
    (start.run Server.answer schedule).Owned (start.courses Server.answer schedule) := by
  induction schedule using List.reverseRecOn with
  | nil =>
    refine ⟨hrows, howns, fun {index _ _ _ _} hat => ?_, fun _ hmem => absurd hmem List.not_mem_nil⟩
    have hat : start.activities[index]? = _ := hat
    rw [hidle] at hat
    cases hat
  | append_singleton schedule event ih =>
    rw [courses_concat] at hmisled
    rw [run_concat, courses_concat]
    refine (ih fun course hmem => ?_).step (charted_run _ hidle hfree schedule) event hmisled
    obtain ⟨course', hmem', hback⟩ := mem_note hmem event
    exact hback (hmisled course' hmem')

/-- Of the operations on a fresh client only those of two parts can be misled, and when none has
been, the rows are those of the selected structure. -/
theorem rows_of_selected {s : Server} (h : s.Reachable) (settings : ClientSettings) (ids : IdSource)
    (schedule : List Event) :
    let start : Scene Server := ⟨.ofSettings settings ids, s, []⟩
    let scene := start.run Server.answer schedule
    let courses := start.courses Server.answer schedule
    (∀ (index : Nat) (a : Activity) (course : Course), scene.activities[index]? = some a →
      courses[index]? = some course → course.misled = true → a.operation.inTwoParts = true) ∧
    ((∀ course ∈ courses, course.misled = false) →
      ∀ row ∈ scene.client.editor.rows,
        scene.client.editor.structureId = some row.structureId) := by
  intro start scene courses
  refine ⟨fun index a course hat hcourse hmisled => ?_, fun hmisled => ?_⟩
  · have hcharted : scene.Charted courses := charted_run Server.answer rfl rfl schedule
    by_contra htwo
    have hunstrayed := (hcharted.each hat hcourse).unstrayed (Bool.eq_false_iff.2 htwo)
    rw [Course.misled_of_unstrayed hunstrayed] at hmisled
    cases hmisled
  · exact (owned_run rfl rfl h.rowsAt (fun _ hrow => absurd hrow List.not_mem_nil)
      schedule hmisled).owns

def smallMove : Operation := .moveFiber ⟨1, .a⟩ ⟨2, .a⟩ ⟨Server.smallFiber 1, "cable"⟩

def crossing (second : Event) : List Event :=
  chosen 0 Server.smallTray ++ [.start smallMove, .serve 1] ++ chosen 2 otherTray ++ [.deliver 1] ++
    chosen 3 Server.smallTray ++ [second, .deliver 1]

theorem rows_of_selected_after_crossing :
    let scene := freshStart.run Server.answer (crossing (.serve 1))
    scene.client.editor.structureId = some Server.smallTray.id ∧
      scene.client.editor.rows.map (·.port) = [2] ∧
      ∀ row ∈ scene.client.editor.rows, scene.client.editor.structureId = some row.structureId := by
  intro scene
  have howned := (rows_of_selected (s := twoTrays) ⟨_, _, _, _, rfl⟩ {} (.numbered 1 0)
    (crossing (.serve 1))).2 (by decide +kernel)
  exact ⟨by decide +kernel, by decide +kernel, howned⟩

/-- When the second write fails, the rows of the other structure, which were shown when it was sent,
are put back while the first structure is selected. -/
theorem rows_of_other_after_crossing :
    let scene := freshStart.run Server.answer (crossing (.lose 1 ⟨.rejected, "lost"⟩))
    scene.client.editor.structureId = some Server.smallTray.id ∧
      scene.client.editor.rows.map (·.structureId) = [otherTray.id] := by
  decide +kernel

end Scene

end CrossConnect
