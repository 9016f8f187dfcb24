import CrossConnect.Proofs.Wire.Settings
import CrossConnect.Proofs.Wire.Splice
import CrossConnect.Wire.Drop

/-!
The forms of drops, one for each kind, and what reading undoes: every value that travels or is kept
as JSON comes back from its form, however the form is varied, so that a drop may as well be handed
over as JSON.
-/
namespace CrossConnect
namespace Wire

/-! ### Drops -/

def dropForm? : String → Option RecordForm
  | "fiber" => some
    { fields := [.required String "type", .required Fiber "fiber", .required String "cable_name"] }
  | "bundle" => some
    { fields := [.required String "type", .required CableId "cable_id",
        .required String "cable_name", .required UInt32 "bundle_number", .required String "color",
        .required (List Fiber) "fibers"] }
  | "cable" => some
    { fields := [.required String "type", .required CableId "id", .required String "name",
        .defaulted "fibers" ([] : List Fiber)] }
  | "existing_structure" => some
    { fields := [.required String "type", .required StructureId "structure_id"] }
  | "component_type" => some
    { fields := [.required String "type", .required ComponentTypeId "component_type_id"] }
  | _ => none

instance : Form Drop where
  Varies j j' := ∃ kind form,
    j.member? "type" = some (.string kind) ∧ dropForm? kind = some form ∧ RecordVaries form j j'

theorem varies_drop_iff {drop : Drop} {form : RecordForm} (hform : dropForm? drop.kind = some form)
    {j : Json} : Form.Varies Drop (encode drop) j ↔ RecordVaries form (encode drop) j := by
  constructor
  · rintro ⟨kind, other, hkind, hother, h⟩
    obtain rfl : drop.kind = kind := Json.string.inj (Option.some.inj hkind)
    obtain rfl : form = other := Option.some.inj (hform.symm.trans hother)
    exact h
  · intro h
    exact ⟨drop.kind, form, rfl, hform, h⟩

theorem decode?_drop {members : List (String × Json)} {kind : String} {reader : FieldReader Drop}
    {drop : Drop} (htype : (FieldForm.required String "type").FoundIn members (.string kind))
    (hreader : dropFields? kind = some reader) (hreads : Reads reader members drop) :
    (decode? (.object members) : Option Drop) = some drop := by
  obtain ⟨value, hvalue, honce⟩ | ⟨hspare, -⟩ := htype
  · obtain rfl : Json.string kind = value := hvalue
    have hkind : members.filter (·.1 == "type") = [("type", .string kind)] := honce
    simp only [decode?, hkind, hreader]
    exact ofRecord?_of_reads hreads
  · cases hspare

instance : Lenient Drop where
  varies_encode drop := by
    cases drop <;>
      exact (varies_drop_iff rfl).2
        (.self (by simp [dropMembers, labelledFiberMembers, bundleMembers, cableMembers]))
  decode?_of_varies {drop j} h := by
    cases drop with
    | fiber f =>
      obtain ⟨members, rfl, htype, hfiber, hcableName, -⟩ := ((varies_drop_iff rfl).1 h).found
      exact decode?_drop htype rfl <| .map _ <|
        hfiber.required.bind <| hcableName.required.bind <| reads_pure _
    | bundle b =>
      obtain ⟨members, rfl, htype, hcable, hcableName, hnumber, hcolor, hfibers, -⟩ :=
        ((varies_drop_iff rfl).1 h).found
      exact decode?_drop htype rfl <| .map _ <| hcable.required.bind <|
        hcableName.required.bind <| hnumber.required.bind <| hcolor.required.bind <|
        hfibers.required.bind <| reads_pure _
    | cable c =>
      obtain ⟨members, rfl, htype, hid, hname, hfibers, -⟩ := ((varies_drop_iff rfl).1 h).found
      exact decode?_drop htype rfl <| .map _ <|
        hid.required.bind <| hname.required.bind <| hfibers.defaulted.bind <| reads_pure _
    | mounted id =>
      obtain ⟨members, rfl, htype, hid, -⟩ := ((varies_drop_iff rfl).1 h).found
      exact decode?_drop htype rfl <| .map _ hid.required
    | component id =>
      obtain ⟨members, rfl, htype, hid, -⟩ := ((varies_drop_iff rfl).1 h).found
      exact decode?_drop htype rfl <| .map _ hid.required

/-! ### What reading undoes -/

/-- A value comes back from its form and from all that say the same. -/
def Restores (α : Type) [Wire α] [Form α] : Prop :=
  ∀ value : α, decode? (encode value) = some value ∧
    ∀ j, Form.Varies α (encode value) j → decode? j = some value

theorem restores (α : Type) [Wire α] [Form α] [Lenient α] : Restores α := fun value =>
  ⟨decode?_encode value, fun _ => decode?_of_varies⟩

end Wire

open Wire

section explained

variable {spot : PortSide} {j : Json} (structures : List Structure) (explain : Json → String)

theorem Client.dropJsonOnPort_of_decode? {drop : Drop} (h : decode? j = some drop) :
    Client.dropJsonOnPort spot j structures explain = Client.dropOnPort spot drop structures := by
  rw [dropJsonOnPort, Drop.ofJson, h]

theorem Client.dropJsonOnPort_of_none (h : (decode? j : Option Drop) = none) :
    Client.dropJsonOnPort spot j structures explain =
      Client.rejectDrop (Failure.unsupportedDrop (explain j)).message := by
  rw [dropJsonOnPort, Drop.ofJson, h]

end explained

/-- Drops, the editor, rows, merge groups, plans and settings come back from their JSON form, also
when at any depth members under unknown names are added, members are put in another order, and
entries are left out whose value is what their absence stands for. So a drop handed over as JSON is
the same job as the drop itself: whatever the authority answers, it asks for the same and ends with
the same outcome and client. What cannot be read as a drop ends at once, with no call and with the
reader's explanation as a warning, and the editor stays as it is. -/
theorem restored_from_forms :
    Restores Drop ∧ Restores Editor ∧ Restores Splice ∧ Restores MergeGroup ∧ Restores NodePlan ∧
      Restores ServerSettings ∧ Restores ClientSettings ∧
      (∀ spot drop structures explain,
        Client.dropJsonOnPort spot (encode drop) structures explain =
            Client.dropOnPort spot drop structures ∧
          ∀ j, Form.Varies Drop (encode drop) j →
            Client.dropJsonOnPort spot j structures explain =
              Client.dropOnPort spot drop structures) ∧
      ∀ spot j structures explain (c : Client), (decode? j : Option Drop) = none →
        let reason := (Failure.unsupportedDrop (explain j)).message
        Client.dropJsonOnPort spot j structures explain c =
            .done (c.notify (.warning reason)) (.rejected reason) ∧
          (c.notify (.warning reason)).editor = c.editor := by
  refine ⟨restores _, restores _, restores _, restores _, restores _, restores _,
    restores _, ?_, ?_⟩
  · intro spot drop structures explain
    obtain ⟨hencoded, hvaried⟩ := restores Drop drop
    exact ⟨Client.dropJsonOnPort_of_decode? structures explain hencoded,
      fun j hj => Client.dropJsonOnPort_of_decode? structures explain (hvaried j hj)⟩
  · intro spot j structures explain c hunread
    refine ⟨?_, rfl⟩
    rw [Client.dropJsonOnPort_of_none structures explain hunread]
    rfl

def bareCable : Drop := .cable { id := ⟨⟨1⟩⟩, name := "K-01", fibers := [] }

def bareCableForm : Json :=
  .object [("name", .string "K-01"), ("type", .string "cable"), ("id", encode (⟨1⟩ : Uuid)),
    ("length", .natural 40)]

def bareEditor : Editor :=
  { rows := [{ id := .temporary ⟨1⟩, structureId := ⟨⟨2⟩⟩, port := 3 }] }

def bareEditorForm : Json :=
  let id := Json.object
    [("note", .null), ("kind", .string "temporary"), ("id", encode (⟨1⟩ : Uuid))]
  let row := Json.object
    [("id", id), ("structure_id", encode (⟨2⟩ : Uuid)), ("port_number", .natural 3),
      ("endpoint_a", .object []), ("endpoint_b", .object [("note", .null)])]
  .object [("splices", .array [row]), ("merge_mode", .bool false), ("selection", .array [])]

theorem restored_from_bare_forms :
    (Form.Varies Drop (encode bareCable) bareCableForm ∧ decode? bareCableForm = some bareCable ∧
      Client.dropJsonOnPort ⟨1, .a⟩ bareCableForm [] = Client.dropOnPort ⟨1, .a⟩ bareCable []) ∧
    (Form.Varies Editor (encode bareEditor) bareEditorForm ∧
      decode? bareEditorForm = some bareEditor) ∧
    (decode? (.object [("type", .string "splitter")]) : Option Drop) = none ∧
      Client.dropJsonOnPort ⟨1, .a⟩ (.object [("type", .string "splitter")]) []
          (fun _ => "unknown variant") (.ofSettings .standard (.numbered 0 0)) =
        .done ((Client.ofSettings .standard (.numbered 0 0)).notify
            (.warning "unsupported drop payload: unknown variant"))
          (.rejected "unsupported drop payload: unknown variant") := by
  obtain ⟨hdrop, heditor, -, -, -, -, -, hjob, hunread⟩ := restored_from_forms
  have hcable : Form.Varies Drop (encode bareCable) bareCableForm := by
    have horder : [("type", .string "cable"), ("id", encode (⟨1⟩ : Uuid)), ("name", .string "K-01"),
        ("length", .natural 40)].Perm [("name", .string "K-01"), ("type", .string "cable"),
        ("id", encode (⟨1⟩ : Uuid)), ("length", Json.natural 40)] :=
      (List.Perm.cons _ (.swap _ _ _)).trans (.swap _ _ _)
    exact (varies_drop_iff rfl).2 (.object (.keep rfl <| .keep rfl <| .keep rfl <| .leaveOut rfl <|
      .add (by simp) .nil) horder)
  have hrows : Form.Varies Editor (encode bareEditor) bareEditorForm := by
    have hvacant : Form.Varies Endpoint (encode ({} : Endpoint)) (.object []) :=
      .object (.leaveOut rfl <| .leaveOut rfl <| .leaveOut rfl .nil) (.refl _)
    have hnoted : Form.Varies Endpoint (encode ({} : Endpoint)) (.object [("note", .null)]) :=
      .object (.leaveOut rfl <| .leaveOut rfl <| .leaveOut rfl <| .add (by simp) .nil) (.refl _)
    have hid : Form.Varies RowId (encode (RowId.temporary ⟨1⟩)) (.object
        [("note", .null), ("kind", .string "temporary"), ("id", encode (⟨1⟩ : Uuid))]) :=
      .object (.add (by simp) <| .keep rfl <| .keep rfl .nil) (.refl _)
    exact .object (.leaveOut rfl <| .keep (.array (.cons (.object (.keep hid <| .keep rfl <|
      .keep rfl <| .keep hvacant <| .keep hnoted .nil) (.refl _)) .nil)) <| .keep rfl <|
      .keep (.array .nil) .nil) (.refl _)
  have hsplitter : (decode? (.object [("type", .string "splitter")]) : Option Drop) = none := rfl
  exact ⟨⟨hcable, (hdrop bareCable).2 _ hcable, (hjob _ bareCable [] _).2 _ hcable⟩,
    ⟨hrows, (heditor bareEditor).2 _ hrows⟩, hsplitter,
    (hunread ⟨1, .a⟩ _ [] (fun _ => "unknown variant") (.ofSettings .standard (.numbered 0 0))
      hsplitter).1⟩

end CrossConnect
