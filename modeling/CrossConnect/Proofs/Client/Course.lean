import CrossConnect.Proofs.Client.Exclusion
import CrossConnect.Proofs.Client.Operations
import CrossConnect.Proofs.Client.Owned

/-!
Operations while the selection changes under them. An operation is meant for the structure that was
selected when it began, its home; each time an answer reaches it, it may find another one selected.
What it then does to the editor depends on all that it has come across, its course.
-/
namespace CrossConnect

open Client

/-- The client that an operation began with, then each answer it has had and the client it found. -/
inductive Course
  | begun (client : Client)
  | resumed (course : Course) (exchange : Exchange) (client : Client)

namespace Course

def found : Course → Client
  | begun c => c
  | resumed _ _ c => c

def home : Course → Option StructureId
  | begun c => c.editor.structureId
  | resumed course _ _ => course.home

def atHome (course : Course) : Bool :=
  course.found.editor.structureId = course.home

/-- A write was sent while another structure was selected. -/
def strayed : Course → Bool
  | begun _ => false
  | resumed course e _ => course.strayed || e.call.isWrite && !course.atHome

/-- After such a write a call failed, and the structure of the beginning was selected again by
then. -/
def misled : Course → Bool
  | begun _ => false
  | resumed course e c =>
    course.misled || (resumed course e c).strayed && !e.succeeded && (resumed course e c).atHome

def relisted : Course → Bool
  | resumed _ ⟨.rowsOf _, .ok _⟩ _ => true
  | _ => false

def Clean : Course → Prop
  | begun c => c.editor.Owns
  | resumed course e c => course.Clean ∧ e.call.Faithful e.answer ∧ c.editor.Owns ∧
      (resumed course e c).misled = false

structure Going (course : Course) (home : Option StructureId) (c : Client) : Prop where
  home : course.home = home
  structureId : c.editor.structureId = course.found.editor.structureId
  editor : course.atHome = false → c.editor = course.found.editor
  owns : course.Clean → c.editor.Owns

variable {course : Course} {home : Option StructureId} {id : StructureId} {c c' next : Client}
  {e : Exchange} {edit : Edit}

theorem Clean.owns (h : course.Clean) : course.found.editor.Owns := by
  cases course with
  | begun c => exact h
  | resumed course e c => exact h.2.2.1

theorem going_begun (c : Client) : (begun c).Going c.editor.structureId c :=
  ⟨rfl, rfl, fun _ => rfl, id⟩

theorem going_resumed (h : course.home = home) (e : Exchange) (next : Client) :
    (course.resumed e next).Going home next :=
  ⟨h, rfl, fun _ => rfl, Clean.owns⟩

namespace Going

theorem selected (h : course.Going home c) (hat : course.atHome = true) :
    c.editor.structureId = home := by
  rw [h.structureId, ← h.home]
  exact of_decide_eq_true hat

theorem atHome_iff (h : course.Going home c) :
    course.atHome = true ↔ c.editor.structureId = home := by
  rw [h.structureId, ← h.home]
  exact decide_eq_true_iff

theorem of_editor (h : course.Going home c) (heditor : c'.editor = c.editor) :
    course.Going home c' := by
  refine ⟨h.home, ?_, fun hat => ?_, fun hclean => ?_⟩
  · rw [heditor, h.structureId]
  · rw [heditor, h.editor hat]
  · rw [heditor]
    exact h.owns hclean

theorem of_rows (h : course.Going home c) (hat : course.atHome = true)
    (hrows : c'.editor.rows = c.editor.rows) (hselected : c'.editor.selected = c.editor.selected) :
    course.Going home c' := by
  have hid : c'.editor.structureId = c.editor.structureId := by
    simp only [Editor.structureId]
    rw [hselected]
  refine ⟨h.home, hid.trans h.structureId, fun haway => ?_, fun hclean => ?_⟩
  · rw [hat] at haway
    cases haway
  · simp only [Editor.Owns]
    rw [hrows, hid]
    exact h.owns hclean

theorem apply (h : course.Going (some id) c) (hscope : edit.scope = some id)
    (hfits : course.Clean → c.editor.structureId = some id → edit.Fits) :
    course.Going (some id) (c.apply edit) := by
  refine ⟨h.home, (structureId_apply hscope).trans h.structureId, fun hat => ?_, fun hclean => ?_⟩
  · have haway : c.editor.structureId ≠ some id := fun hid => by
      rw [h.atHome_iff.2 hid] at hat
      cases hat
    rw [editor_apply_elsewhere hscope haway, h.editor hat]
  · exact owns_apply (h.owns hclean) hscope (hfits hclean)

end Going

end Course

/-! ### Jobs that go by their course -/

/-- The job leaves the client as agreed wherever it waits, and sends its writes at home unless it
`strays`. -/
def Progress.Follows {α : Type} (home : Option StructureId) (strays : Bool)
    (ending : Course → Client → α → Prop) : Course → Progress α → Prop
  | course, done left value => ending course left value
  | course, waits left call resume =>
    course.Going home left ∧ (call.isWrite = true → strays = true ∨ course.atHome = true) ∧
      ∀ answer next,
        (resume answer next).Follows home strays ending (course.resumed ⟨call, answer⟩ next)

namespace Progress.Follows

variable {α β : Type} {home : Option StructureId} {strays : Bool} {course : Course}
  {p : Progress α} {ending ending' : Course → Client → α → Prop}

theorem mono (h : p.Follows home strays ending course)
    (hending : ∀ course left value, ending course left value → ending' course left value) :
    p.Follows home strays ending' course := by
  induction p generalizing course with
  | done left value => exact hending _ _ _ h
  | waits left call resume ih =>
    obtain ⟨hgoing, hwrite, hnext⟩ := h
    exact ⟨hgoing, hwrite, fun answer next => ih answer next (hnext answer next)⟩

theorem bind {next : α → Client → Progress β} {ending' : Course → Client → β → Prop}
    (h : p.Follows home strays ending course)
    (hnext : ∀ course left value, ending course left value →
      (next value left).Follows home strays ending' course) :
    (p.bind next).Follows home strays ending' course := by
  induction p generalizing course with
  | done left value => exact hnext _ _ _ h
  | waits left call resume ih =>
    obtain ⟨hgoing, hwrite, hrest⟩ := h
    exact ⟨hgoing, hwrite, fun answer c => ih answer c (hrest answer c)⟩

end Progress.Follows

namespace Job

variable {α β : Type} {home : Option StructureId} {strays : Bool} {course : Course} {c : Client}

def Follows (home : Option StructureId) (strays : Bool) (job : Job α)
    (ending : Course → Client → α → Prop) (course : Course) (c : Client) : Prop :=
  (job c).Follows home strays ending course

theorem Follows.mono {job : Job α} {ending ending' : Course → Client → α → Prop}
    (h : Follows home strays job ending course c)
    (hending : ∀ course left value, ending course left value → ending' course left value) :
    Follows home strays job ending' course c :=
  Progress.Follows.mono h hending

theorem Follows.bind {job : Job α} {next : α → Job β} {mid : Course → Client → α → Prop}
    {ending : Course → Client → β → Prop} (h : Follows home strays job mid course c)
    (hnext : ∀ course c value, mid course c value →
      Follows home strays (next value) ending course c) :
    Follows home strays (job >>= next) ending course c :=
  Progress.Follows.bind h hnext

variable {ending : Course → Client → β → Prop}

theorem follows_client {next : Client → Job β} (h : Follows home strays (next c) ending course c) :
    Follows home strays (client >>= next) ending course c :=
  h

theorem follows_update {f : Client → Client} {next : Unit → Job β}
    (h : Follows home strays (next ()) ending course (f c)) :
    Follows home strays (update f >>= next) ending course c :=
  h

theorem Follows.map {job : Job α} {f : α → β}
    (h : Follows home strays job (fun course left value => ending course left (f value)) course c) :
    Follows home strays (f <$> job) ending course c := by
  rw [map_eq_pure_bind]
  exact h.bind fun _ _ _ hending => hending

theorem follows_call {call : Call} {ending : Course → Client → Except Failure call.Answer → Prop}
    (h : course.Going home c)
    (hwrite : call.isWrite = true → strays = true ∨ course.atHome = true)
    (hending : ∀ answer next, ending (course.resumed ⟨call, answer⟩ next) next answer) :
    Follows home strays (Attempt.call call).run ending course c :=
  ⟨h, hwrite, hending⟩

theorem follows_attempt {attempt : Attempt α} {next : α → Attempt β}
    (mid : Course → Client → Except Failure α → Prop)
    {ending : Course → Client → Except Failure β → Prop}
    (h : Follows home strays attempt.run mid course c)
    (hok : ∀ course c value, mid course c (.ok value) →
      Follows home strays (next value).run ending course c)
    (herror : ∀ course c e, mid course c (.error e) → ending course c (.error e)) :
    Follows home strays (attempt >>= next).run ending course c := by
  refine Progress.Follows.bind h fun course c answer hmid => ?_
  cases answer with
  | ok value => exact hok course c value hmid
  | error e => exact herror course c e hmid

abbrev GoesOn (home : Option StructureId) (strays : Bool) (job : Job α) (course : Course)
    (c : Client) : Prop :=
  Follows home strays job (fun course left _ => course.Going home left) course c

def Goes (home : Option StructureId) (strays : Bool) (job : Job α) : Prop :=
  ∀ course c, course.Going home c → GoesOn home strays job course c

theorem Goes.bind {job : Job α} {next : α → Job β} (h : Goes home strays job)
    (hnext : ∀ value, Goes home strays (next value)) : Goes home strays (job >>= next) :=
  fun course c hgoing => (h course c hgoing).bind fun course c value => hnext value course c

theorem Goes.attempt {attempt : Attempt α} {next : α → Attempt β} (h : Goes home strays attempt.run)
    (hnext : ∀ value, Goes home strays (next value).run) :
    Goes home strays (attempt >>= next).run :=
  fun course c hgoing => follows_attempt _ (h course c hgoing)
    (fun course c value => hnext value course c) fun _ _ _ => id

theorem goes_pure (value : α) : Goes home strays (pure value) :=
  fun _ _ hgoing => hgoing

theorem goes_notify (notice : Notice) : Goes home strays (notify notice) :=
  fun _ _ hgoing => hgoing.of_editor rfl

theorem goes_report (notice : Notice) (value : α) :
    Goes home strays (do notify notice; pure value) :=
  (goes_notify notice).bind fun _ => goes_pure value

theorem goes_call {call : Call} (h : call.isWrite = true → strays = true) :
    Goes home strays (Attempt.call call).run := fun _ _ hgoing =>
  follows_call hgoing (fun hwrite => .inl (h hwrite))
    fun _ _ => Course.going_resumed hgoing.home ..

end Job

/-! ### Single ports -/

section jobs

variable {α : Type} {home : Option StructureId} {strays : Bool} {course : Course} {id : StructureId}
  {c next : Client} {e : Exchange} {before : List Splice}

/-- The rows from before a write belong to the structure that they would be put back for, unless the
write has strayed. -/
def Restorable (id : StructureId) (before : List Splice) (course : Course) : Prop :=
  course.Clean → course.strayed = true ∨ RowsOf id before

theorem restorable_written (h : course.Going (some id) c) (hwrite : e.call.isWrite = true)
    (next : Client) : Restorable id c.editor.rows (course.resumed e next) := by
  intro hclean
  cases hat : course.atHome with
  | false => exact .inl (by simp [Course.strayed, hwrite, hat])
  | true => exact .inr ((Editor.owns_iff (h.selected hat)).1 (h.owns hclean.1))

theorem Restorable.resumed (h : Restorable id before course) (e : Exchange) (next : Client) :
    Restorable id before (course.resumed e next) :=
  fun hclean => (h hclean.1).imp_left fun hstrayed => by simp [Course.strayed, hstrayed]

theorem Restorable.restored (h : Restorable id before (course.resumed e next))
    (hfailed : e.succeeded = false) (hclean : (course.resumed e next).Clean)
    (hat : (course.resumed e next).atHome = true) : RowsOf id before := by
  refine (h hclean).resolve_left fun hstrayed => ?_
  have hmisled := hclean.2.2.2
  simp [Course.misled, hstrayed, hfailed, hat] at hmisled

def Settling (id : StructureId) (before : List Splice) (course : Course) (left : Client) :
    Except Failure Settlement → Prop
  | .ok settlement => course.Going (some id) left ∧ (course.Clean → (settlement.edit id).Fits)
  | .error _ =>
    course.Going (some id) left ∧ (course.Clean → course.atHome = true → RowsOf id before)

theorem follows_listing (h : course.Going (some id) c) (hbefore : Restorable id before course) :
    Job.Follows (some id) strays
      (Settlement.listing <$> Attempt.call (.rowsOf id) : Attempt Settlement).run
      (Settling id before) course c := by
  refine ⟨h, nofun, fun answer next => ?_⟩
  have hgoing := Course.going_resumed h.home ⟨.rowsOf id, answer⟩ next
  cases answer with
  | ok rows => exact ⟨hgoing, fun hclean => hclean.2.1⟩
  | error e => exact ⟨hgoing, (hbefore.resumed _ next).restored rfl⟩

theorem follows_settleMerged (h : course.Going (some id) c) (hbefore : Restorable id before course)
    (merged : Bool) {otherwise : Settlement} (hfits : course.Clean → (otherwise.edit id).Fits) :
    Job.Follows (some id) strays (settleMerged id merged otherwise).run (Settling id before) course
      c := by
  cases merged with
  | true => exact follows_listing h hbefore
  | false => exact ⟨h, hfits⟩

theorem follows_optimistically {edit : Edit} {write : Call}
    {settle : write.Answer → Attempt Settlement} (h : course.Going (some id) c)
    (hstrays : strays = true ∨ course.atHome = true)
    (hscope : edit.scope = some id) (hfits : edit.Fits) (hwrite : write.isWrite = true)
    (hsettle : ∀ a next, let course := course.resumed ⟨write, .ok a⟩ next
      course.Going (some id) next → Restorable id c.editor.rows course →
      Job.Follows (some id) strays (settle a).run (Settling id c.editor.rows) course next) :
    Job.GoesOn (some id) strays (optimistically id edit (Attempt.call write >>= settle)).run course
      c := by
  have hedited := h.apply hscope fun _ _ => hfits
  have hremote : Job.Follows (some id) strays (Attempt.call write >>= settle).run
      (Settling id c.editor.rows) course (c.apply edit) := by
    refine ⟨hedited, fun _ => hstrays, fun answer next => ?_⟩
    have hgoing := Course.going_resumed h.home ⟨write, answer⟩ next
    have hbefore := restorable_written (e := ⟨write, answer⟩) h hwrite next
    cases answer with
    | ok a => exact hsettle a next hgoing hbefore
    | error e => exact ⟨hgoing, hbefore.restored rfl⟩
  refine Job.follows_client (Job.follows_update
    (hremote.bind fun course left answer hsettled => ?_))
  cases answer with
  | ok settlement =>
    exact hsettled.1.apply (settlement.scope_edit id) fun hclean _ => hsettled.2 hclean
  | error e =>
    have hscope : (Edit.replaceRows id c.editor.rows).scope = some id := rfl
    exact hsettled.1.apply hscope fun hclean hid => hsettled.2 hclean (hsettled.1.atHome_iff.2 hid)

theorem follows_checked {next : Bool → Attempt Unit} (spot : PortSide) (h : course.Going home c)
    (hnext : ∀ merged, Job.GoesOn home strays (next merged).run course c) :
    Job.GoesOn home strays (checkMerged spot >>= next).run course c := by
  rw [Job.GoesOn, Job.Follows, Attempt.run_bind, checkMerged_run]
  cases (requirePort c.editor spot).map fun _ => (Occupancy.groupOf c.editor.rows spot).isSome with
  | ok merged => exact hnext merged
  | error e => exact h

theorem follows_assign (h : course.Going (some id) c)
    (hstrays : strays = true ∨ course.atHome = true) (spot : PortSide) (fiber : LabelledFiber) :
    Job.GoesOn (some id) strays (assign id spot fiber).run course c := by
  refine follows_checked spot h fun merged => ?_
  refine follows_optimistically h hstrays rfl trivial rfl fun row next hgoing hbefore => ?_
  exact follows_settleMerged hgoing hbefore merged fun hclean => hclean.2.1

theorem follows_vacate (h : course.Going (some id) c)
    (hstrays : strays = true ∨ course.atHome = true) (spot : PortSide) :
    Job.GoesOn (some id) strays (vacate id spot).run course c := by
  refine follows_checked spot h fun merged => ?_
  refine follows_optimistically h hstrays rfl trivial rfl fun _ next hgoing hbefore => ?_
  exact follows_settleMerged hgoing hbefore merged fun _ => trivial

theorem follows_selected {missing : Job α} {selected : StructureId → Job α}
    (h : course.Going home c) (hat : course.atHome = true) (hmissing : missing.Goes home strays)
    (hselected : ∀ id, home = some id → Job.GoesOn home strays (selected id) course c) :
    Job.GoesOn home strays (do
      match (← Job.client).editor.structureId with
      | none => missing
      | some id => selected id) course c := by
  refine Job.follows_client ?_
  rw [h.selected hat]
  cases home with
  | none => exact hmissing course c h
  | some id => exact hselected id rfl

theorem follows_dropFiber (h : course.Going home c) (hat : course.atHome = true) (spot : PortSide)
    (fiber : LabelledFiber) :
    Job.GoesOn home strays (dropFiber spot fiber) course c := by
  refine follows_selected h hat (Job.goes_pure _) ?_
  rintro id rfl
  refine (follows_assign h (.inr hat) spot fiber).bind fun course c answer hgoing => ?_
  cases answer with
  | ok _ => exact Job.goes_report _ _ course c hgoing
  | error _ => exact Job.goes_report _ _ course c hgoing

theorem follows_clearPort (h : course.Going home c) (hat : course.atHome = true) (spot : PortSide) :
    Job.GoesOn home strays (clearPort spot) course c := by
  refine follows_selected h hat (Job.goes_pure _) ?_
  rintro id rfl
  refine (follows_vacate h (.inr hat) spot).bind fun course c answer hgoing => ?_
  cases answer with
  | ok _ => exact Job.goes_report _ _ course c hgoing
  | error _ => exact Job.goes_report _ _ course c hgoing

theorem follows_moveFiber (h : course.Going home c) (hat : course.atHome = true)
    (source target : PortSide) (fiber : LabelledFiber) :
    Job.GoesOn home true (moveFiber source target fiber) course c := by
  simp only [moveFiber]
  split
  · exact h
  · refine follows_selected h hat (Job.goes_pure _) ?_
    rintro id rfl
    refine (follows_assign h (.inr hat) target fiber).bind fun course c answer hgoing => ?_
    cases answer with
    | error _ => exact Job.goes_report _ _ course c hgoing
    | ok _ =>
      refine (follows_vacate hgoing (.inl rfl) source).bind fun course c answer hgoing => ?_
      cases answer with
      | ok _ => exact Job.goes_report _ _ course c hgoing
      | error _ => exact Job.goes_report _ _ course c hgoing

/-! ### Merge groups -/

def Relisting (id : StructureId) (course : Course) (left : Client)
    (answer : Except Failure (List Splice)) : Prop :=
  course.Going (some id) left ∧ ∀ rows, answer = .ok rows →
    course.relisted = true ∧ (course.Clean → RowsOf id rows)

theorem follows_rewritten (h : course.Going (some id) c) (hat : course.atHome = true)
    (write : Call) :
    Job.Follows (some id) strays
      (Attempt.call write >>= fun _ => Attempt.call (.rowsOf id) : Attempt (List Splice)).run
      (Relisting id) course c := by
  refine ⟨h, fun _ => .inr hat, fun answer next => ?_⟩
  have hgoing := Course.going_resumed h.home ⟨write, answer⟩ next
  cases answer with
  | error e => exact ⟨hgoing, nofun⟩
  | ok a =>
    refine ⟨hgoing, nofun, fun answer next => ?_⟩
    have hgoing := Course.going_resumed hgoing.home ⟨.rowsOf id, answer⟩ next
    refine ⟨hgoing, ?_⟩
    rintro rows rfl
    exact ⟨rfl, fun hclean => hclean.2.1⟩

theorem follows_unmerge (h : course.Going home c) (hat : course.atHome = true)
    (group : MergeGroupId) (ports : Option (List PortNumber)) :
    Job.GoesOn home strays (unmerge group ports) course c := by
  refine Job.follows_client ?_
  dsimp only
  rw [h.selected hat]
  cases home with
  | none => exact h
  | some id =>
    dsimp only
    split
    · exact h
    · refine (follows_rewritten h hat (.unmerge group _)).bind fun course c answer hlisted => ?_
      cases answer with
      | error e => exact Job.goes_report _ _ course c hlisted.1
      | ok rows =>
        have hrows := (hlisted.2 rows rfl).2
        have hscope : (Edit.replaceRows id rows).scope = some id := rfl
        refine Job.follows_update ?_
        exact Job.goes_report _ _ course _ (hlisted.1.apply hscope fun hclean _ => hrows hclean)

structure Operation.Rests (operation : Operation) (course : Course) (left : Client) : Prop where
  owns : course.Clean → left.editor.Owns
  editor : operation.isExclusive = false → course.atHome = false →
    left.editor = course.found.editor ∨ operation = .mergeSelected ∧ course.relisted = true ∧
      left.editor = { course.found.editor with mergeMode := false, selection := [] }

theorem Course.Going.rests (h : course.Going home c) (operation : Operation) :
    operation.Rests course c :=
  ⟨h.owns, fun _ hat => .inl (h.editor hat)⟩

theorem follows_mergeSelected (h : course.Going home c) (hat : course.atHome = true) :
    Job.Follows home strays mergeSelected
      (fun course left _ => Operation.mergeSelected.Rests course left) course c := by
  refine Job.follows_client ?_
  dsimp only
  split
  next =>
    exact (Job.goes_report _ _ course c h).mono fun course left _ hgoing => hgoing.rests _
  next id side ports hcheck =>
    obtain rfl : home = some id := (h.selected hat).symm.trans (checkSelection_eq_ok hcheck)
    refine (follows_rewritten h hat (.merge id ports side)).bind fun course c answer hlisted => ?_
    cases answer with
    | error e =>
      exact (Job.goes_report _ _ course c hlisted.1).mono fun course left _ hgoing => hgoing.rests _
    | ok rows =>
      obtain ⟨hrelisted, hrows⟩ := hlisted.2 rows rfl
      have hscope : (Edit.replaceRows id rows).scope = some id := rfl
      have hgoing := hlisted.1.apply hscope fun hclean _ => hrows hclean
      refine ⟨fun hclean => hgoing.owns hclean, fun _ haway => .inr ⟨rfl, hrelisted, ?_⟩⟩
      rw [← hgoing.editor haway]
      rfl

theorem follows_fillGroup (h : course.Going (some id) c)
    (hstrays : strays = true ∨ course.atHome = true) (group : MergeGroupId)
    (ports : List PortNumber) (spot : PortSide) (fibers : List Fiber) (cableName : String) :
    Job.GoesOn (some id) strays (fillGroup id group ports spot fibers cableName) course c := by
  have hupload : ∀ fibers, Job.GoesOn (some id) strays
      (uploadToGroup id group spot fibers cableName).run course c := fun fibers => by
    simp only [uploadToGroup]
    split
    · exact h
    · exact follows_optimistically h hstrays rfl trivial rfl
        fun _ next hgoing hbefore => follows_listing hgoing hbefore
  refine (hupload _).bind fun course c answer hgoing => ?_
  cases answer with
  | ok _ => exact Job.goes_report _ _ course c hgoing
  | error _ => exact Job.goes_report _ _ course c hgoing

theorem follows_cableFibers (h : course.Going home c) (cable : Cable) :
    Job.Follows home strays (cableFibers cable).run
      (fun course' left _ => course'.Going home left ∧
        (cable.fibers.isEmpty = true ∨ course' = course)) course c := by
  simp only [cableFibers]
  split
  next hempty =>
    have hfetch : Job.Goes home strays (Attempt.call (.fibersOf cable.id)).run :=
      Job.goes_call (by simp [Call.isWrite])
    exact ((hfetch.attempt fun _ => Job.goes_pure _) course c h).mono
      fun course left _ hgoing => ⟨hgoing, .inl hempty⟩
  next => exact ⟨h, .inr rfl⟩

theorem follows_dropOnGroup (h : course.Going home c) (hat : course.atHome = true) {drop : Drop}
    (hstrays : ∀ cable, drop = .cable cable → cable.fibers.isEmpty = true → strays = true)
    (group : MergeGroupId) (side : Side) :
    Job.GoesOn home strays (dropOnGroup group side drop) course c := by
  refine Job.follows_client ?_
  dsimp only
  rw [h.selected hat]
  cases home with
  | none => exact h
  | some id =>
    dsimp only
    split
    · exact Job.goes_report _ _ course c h
    · cases drop with
      | fiber fiber => exact follows_dropFiber h hat _ fiber
      | bundle bundle => exact follows_fillGroup h (.inr hat) group _ _ _ _
      | cable cable =>
        refine (follows_cableFibers h cable).bind fun course' c answer hfetched => ?_
        obtain ⟨hgoing, hfetched⟩ := hfetched
        cases answer with
        | ok fibers =>
          refine follows_fillGroup hgoing (hfetched.imp (hstrays cable rfl) ?_) group _ _ _ _
          rintro rfl
          exact hat
        | error e => exact Job.goes_report _ _ course' c hgoing
      | mounted _ => exact Job.goes_report _ _ course c h
      | component _ => exact Job.goes_report _ _ course c h

/-! ### Fills -/

theorem goes_placeOne {target : FillTarget}
    (htarget : target.inEditor = true → home = some target.structureId) (spot : PortSide)
    (fiber : LabelledFiber) : Job.Goes home true (placeOne target spot fiber).run := by
  intro course c h
  simp only [placeOne]
  split
  next heditor =>
    rw [htarget heditor] at h ⊢
    exact follows_assign h (.inl rfl) spot fiber
  next =>
    have hplace : Job.Goes home true
        (Attempt.call (.place ⟨target.structureId, spot, fiber.fiber.ref⟩)).run :=
      Job.goes_call fun _ => rfl
    exact (hplace.attempt fun _ => Job.goes_pure _) course c h

theorem goes_fillPorts {target : FillTarget}
    (htarget : target.inEditor = true → home = some target.structureId) (side : Side)
    (ports : List PortNumber) (fibers : List LabelledFiber) (filled : List MergeGroupId)
    (pass : FillPass) : Job.Goes home true (fillPorts target side ports fibers filled pass) := by
  induction ports generalizing fibers filled pass with
  | nil => exact Job.goes_pure _
  | cons port ports ih =>
    cases fibers with
    | nil => exact Job.goes_pure _
    | cons fiber fibers =>
      simp only [fillPorts]
      split
      · exact ih (fiber :: fibers) filled pass
      · refine (goes_placeOne htarget ⟨port, side⟩ fiber).bind fun answer => ?_
        cases answer with
        | ok _ => exact ih fibers _ _
        | error e => exact Job.goes_pure _

theorem follows_remoteTarget (h : course.Going home c) (record : Structure) (side : Side) :
    Job.Follows home strays (remoteTarget record side).run
      (fun course left answer => course.Going home left ∧
        ∀ target, answer = .ok target → target.inEditor = false) course c := by
  simp only [remoteTarget]
  split
  · exact ⟨h, by simp⟩
  next typeId _ =>
    have hports : Job.Goes home strays (Attempt.call (.portsOf typeId)).run :=
      Job.goes_call (by simp [Call.isWrite])
    have hrows : Job.Goes home strays (Attempt.call (.rowsOf record.id)).run :=
      Job.goes_call (by simp [Call.isWrite])
    refine Job.follows_attempt _ (hports course c h) (fun course c ports hgoing => ?_)
      fun _ _ _ hgoing => ⟨hgoing, by simp⟩
    refine Job.follows_attempt _ (hrows course c hgoing) (fun course c rows hgoing => ?_)
      fun _ _ _ hgoing => ⟨hgoing, by simp⟩
    refine ⟨hgoing, fun target heq => ?_⟩
    obtain rfl := Except.ok.inj heq
    rfl

theorem goes_fillLater (side : Side) (later : List Structure) (fibers : List LabelledFiber)
    (report : FillReport) : Job.Goes home true (fillLater side later fibers report) := by
  induction later generalizing fibers report with
  | nil => exact Job.goes_pure _
  | cons record later ih =>
    simp only [fillLater]
    split
    · exact Job.goes_pure _
    · intro course c h
      refine (follows_remoteTarget h record side).bind fun course c answer hfetched => ?_
      obtain ⟨hgoing, hremote⟩ := hfetched
      cases answer with
      | error e => exact hgoing
      | ok target =>
        have htarget : target.inEditor = true → home = some target.structureId := fun heditor => by
          rw [hremote target rfl] at heditor
          cases heditor
        dsimp only
        split
        · exact hgoing
        · refine (goes_fillPorts htarget side _ fibers [] _ course c hgoing).bind
            fun course c pass hgoing => ?_
          split
          · exact hgoing
          · exact ih _ _ course c hgoing

theorem goes_fillCable {first : FillTarget}
    (htarget : first.inEditor = true → home = some first.structureId) (later : List Structure)
    (side : Side) (fibers : List LabelledFiber) (report : FillReport) :
    Job.Goes home true (fillCable first later side fibers report) := by
  refine (goes_fillPorts htarget side _ fibers [] _).bind fun pass => ?_
  split
  · exact Job.goes_pure _
  · exact goes_fillLater side later _ _

theorem goes_finishFill (kind : FillKind) (failure : Option Failure) (report : FillReport) :
    Job.Goes home strays (finishFill kind failure report) := by
  simp only [finishFill]
  split
  all_goals
    split
    all_goals exact Job.goes_report _ _

theorem follows_exclusively {ending : Course → Editor → Prop} {refused job : Job α}
    (hrefused : Job.Follows home strays refused
      (fun course left _ => ending course left.editor) course c)
    (hjob : ∀ slot, Job.Follows home strays job
      (fun course left _ => ending course left.editor) course { c with slot }) :
    Job.Follows home strays (exclusively refused job)
      (fun course left _ => ending course left.editor) course c := by
  refine Job.follows_client ?_
  split
  · exact hrefused
  next slot _ => exact (hjob slot).bind fun course left value hending => hending

def Owning (course : Course) (editor : Editor) : Prop :=
  course.Clean → editor.Owns

theorem Job.Goes.owning {job : Job α} (hjob : job.Goes home strays) (h : course.Going home c) :
    Job.Follows home strays job (fun course left _ => Owning course left.editor) course c :=
  (hjob course c h).mono fun _ _ _ hgoing => hgoing.owns

theorem follows_dropBundle (h : course.Going home c) (hat : course.atHome = true) (start : PortSide)
    (bundle : Bundle) :
    Job.Follows home true (dropBundle start bundle) (fun course left _ => Owning course left.editor)
      course c := by
  refine follows_exclusively ((Job.goes_report _ _).owning h) fun slot => ?_
  have hgoing : course.Going home { c with slot } := h.of_editor rfl
  refine Job.follows_client ?_
  split
  · exact (Job.goes_report _ _).owning hgoing
  next target htarget =>
    have hhome : home = some target.structureId :=
      (h.selected hat).symm.trans (structureId_localTarget htarget)
    split
    · exact (Job.goes_report _ _).owning hgoing
    · split
      · exact (Job.goes_report _ _).owning hgoing
      · refine Job.Goes.owning ?_ hgoing
        exact (goes_fillPorts (fun _ => hhome) _ _ _ [] _).bind fun pass => goes_finishFill _ _ _

theorem follows_dropCable (h : course.Going home c) (hat : course.atHome = true) (start : PortSide)
    (cable : Cable) (structures : List Structure) :
    Job.Follows home true (dropCable start cable structures)
      (fun course left _ => Owning course left.editor) course c := by
  refine follows_exclusively ((Job.goes_report _ _).owning h) fun slot => ?_
  have hgoing : course.Going home { c with slot } := h.of_editor rfl
  refine Job.follows_client ?_
  dsimp only
  split
  next selected target _ htarget =>
    have hhome : home = some target.structureId :=
      (h.selected hat).symm.trans (structureId_localTarget htarget)
    split
    · exact (Job.goes_report _ _).owning hgoing
    · refine (follows_cableFibers hgoing cable).bind fun course c answer hfetched => ?_
      cases answer with
      | error e => exact (goes_finishFill _ _ _).owning hfetched.1
      | ok fibers =>
        dsimp only
        split
        · exact (Job.goes_report _ _).owning hfetched.1
        · refine Job.Goes.owning ?_ hfetched.1
          exact (goes_fillCable (fun _ => hhome) _ _ _ _).bind fun result => goes_finishFill _ _ _
  · exact (Job.goes_report _ _).owning hgoing

/-! ### Changes of the selection -/

theorem follows_fetch (h : course.Going home c) (record : Structure) :
    Job.Follows home strays (fetch record).run
      (fun course left answer => course.Going home left ∧
        ∀ ports rows, answer = .ok (ports, rows) → course.Clean →
          RowsOf record.id rows) course c := by
  simp only [fetch]
  split
  · refine ⟨h, fun ports rows heq _ => ?_⟩
    obtain ⟨rfl, rfl⟩ := Prod.mk.inj (Except.ok.inj heq)
    exact fun _ hrow => absurd hrow List.not_mem_nil
  next typeId _ =>
    have hports : Job.Goes home strays (Attempt.call (.portsOf typeId)).run :=
      Job.goes_call (by simp [Call.isWrite])
    refine Job.follows_attempt _ (hports course c h) (fun course c ports hgoing => ?_)
      fun _ _ _ hgoing => ⟨hgoing, by simp⟩
    refine ⟨hgoing, by simp [Call.isWrite], fun answer next => ?_⟩
    have hresumed := Course.going_resumed hgoing.home ⟨.rowsOf record.id, answer⟩ next
    cases answer with
    | error e => exact ⟨hresumed, by simp⟩
    | ok listed =>
      refine ⟨hresumed, fun ports rows heq hclean => ?_⟩
      obtain ⟨-, rfl⟩ := Prod.mk.inj (Except.ok.inj heq)
      exact hclean.2.1

theorem follows_select (h : course.Going home c) (record : Structure) :
    Job.Follows home strays (select record) (fun course left _ => Owning course left.editor) course
      c := by
  refine follows_exclusively ((Job.goes_report _ _).owning h) fun slot => ?_
  have hgoing : course.Going home { c with slot } := h.of_editor rfl
  refine (follows_fetch hgoing record).bind fun course c answer hfetched => ?_
  cases answer with
  | error e => exact (Job.goes_report _ _).owning hfetched.1
  | ok fetched =>
    obtain ⟨ports, rows⟩ := fetched
    intro hclean
    have hloaded := RowsOf.of_perm (hfetched.2 ports rows rfl hclean)
      (sortBy_perm (fun r s : Splice => decide (r.port ≤ s.port)) rows)
    exact fun row hrow => congrArg some (hloaded row hrow).symm

theorem follows_deselect (h : course.Going home c) :
    Job.Follows home strays deselect (fun course left _ => Owning course left.editor) course c := by
  refine follows_exclusively ((Job.goes_report _ _).owning h) fun slot => ?_
  exact fun _ _ hrow => absurd hrow List.not_mem_nil

/-! ### All operations -/

/-- Operations that send a write only after an answer: the clearing of a move, and the upload of a
cable whose fibers are fetched first. -/
def Operation.inTwoParts : Operation → Bool
  | .moveFiber _ _ _ => true
  | .dropOnGroup _ _ (.cable cable) => cable.fibers.isEmpty
  | _ => false

def Operation.mayStray (operation : Operation) : Bool :=
  operation.isFill || operation.inTwoParts

theorem rests_of_goesOn {operation : Operation} {job : Job α}
    (h : Job.GoesOn home strays job course c) :
    Job.Follows home strays job (fun course left _ => operation.Rests course left) course c :=
  h.mono fun _ _ _ hgoing => hgoing.rests operation

theorem rests_of_owning {operation : Operation} {job : Job α}
    (hexclusive : operation.isExclusive = true)
    (h : Job.Follows home strays job (fun course left _ => Owning course left.editor) course c) :
    Job.Follows home strays job (fun course left _ => operation.Rests course left) course c := by
  refine h.mono fun course left _ howning => ⟨howning, fun hcalm => ?_⟩
  rw [hexclusive] at hcalm
  cases hcalm

theorem follows_toggleMergeMode (h : course.Going home c) (hat : course.atHome = true) :
    Job.GoesOn home strays toggleMergeMode course c :=
  show course.Going home (c.apply .toggleMergeMode) from h.of_rows hat rfl rfl

theorem follows_togglePort (h : course.Going home c) (hat : course.atHome = true)
    (spot : PortSide) : Job.GoesOn home strays (togglePort spot) course c := by
  have htoggled : course.Going home (c.apply (.togglePort spot)) := by
    refine h.of_rows hat ?_ ?_
    all_goals
      simp only [Client.apply, Editor.apply, Editor.perform]
      split
      · split <;> rfl
      · rfl
  exact htoggled

theorem follows_dropOnPort (h : course.Going home c) (hat : course.atHome = true) (spot : PortSide)
    (drop : Drop) (structures : List Structure) :
    let operation := Operation.dropOnPort spot drop structures
    Job.Follows home operation.mayStray (dropOnPort spot drop structures)
      (fun course left _ => operation.Rests course left) course c := by
  intro operation
  refine Job.follows_client ?_
  split
  · exact h.rests operation
  · cases drop with
    | fiber fiber => exact (rests_of_goesOn (follows_dropFiber h hat spot fiber)).map
    | bundle bundle => exact (rests_of_owning rfl (follows_dropBundle h hat spot bundle)).map
    | cable cable => exact (rests_of_owning rfl (follows_dropCable h hat spot cable structures)).map
    | mounted _ => exact rests_of_goesOn (Job.goes_report _ _ course c h)
    | component _ => exact rests_of_goesOn (Job.goes_report _ _ course c h)

theorem follows_job (operation : Operation) (c : Client) :
    Job.Follows c.editor.structureId operation.mayStray operation.job
      (fun course left _ => operation.Rests course left) (.begun c) c := by
  have h := Course.going_begun c
  have hat : (Course.begun c).atHome = true := decide_eq_true rfl
  cases operation with
  | select record => exact (rests_of_owning rfl (follows_select h record)).map
  | deselect => exact (rests_of_owning rfl (follows_deselect h)).map
  | dropFiber spot fiber => exact (rests_of_goesOn (follows_dropFiber h hat spot fiber)).map
  | clearPort spot => exact (rests_of_goesOn (follows_clearPort h hat spot)).map
  | moveFiber source target fiber =>
    exact (rests_of_goesOn (follows_moveFiber h hat source target fiber)).map
  | dropBundle start bundle =>
    exact (rests_of_owning rfl (follows_dropBundle h hat start bundle)).map
  | dropCable start cable structures =>
    exact (rests_of_owning rfl (follows_dropCable h hat start cable structures)).map
  | dropOnPort spot drop structures => exact (follows_dropOnPort h hat spot drop structures).map
  | toggleMergeMode => exact (rests_of_goesOn (follows_toggleMergeMode h hat)).map
  | togglePort spot => exact (rests_of_goesOn (follows_togglePort h hat spot)).map
  | mergeSelected => exact (follows_mergeSelected h hat).map
  | unmerge group ports => exact (rests_of_goesOn (follows_unmerge h hat group ports)).map
  | dropOnGroup group side drop =>
    refine (rests_of_goesOn (follows_dropOnGroup h hat ?_ group side)).map
    rintro cable rfl hempty
    simp [Operation.mayStray, Operation.inTwoParts, hempty]

end jobs

end CrossConnect
