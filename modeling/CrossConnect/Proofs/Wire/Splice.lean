import CrossConnect.Proofs.Wire.Node
import CrossConnect.Wire.Splice

/-!
The forms of splice rows, merge groups and the editor, and that each is read leniently.
-/
namespace CrossConnect.Wire

/-! ### Rows -/

instance : Form RowId := ⟨RecordVaries
  { fields := [.required String "kind", .required Uuid "id"] }⟩

instance : Lenient RowId where
  varies_encode id := by
    cases id with
    | persisted id => exact .self (by simp)
    | temporary id => exact .self (by simp)
  decode?_of_varies {id j} h := by
    cases id with
    | persisted id =>
      have hmake : rowIdOfKind? "persisted" = some .persisted := rfl
      obtain ⟨members, rfl, hkind, hid, -⟩ := h.found
      exact ofRecord?_of_reads <| (hkind.variant hmake).bind <| hid.required.bind <| reads_pure _
    | temporary id =>
      have hmake : rowIdOfKind? "temporary" = some .temporary := rfl
      obtain ⟨members, rfl, hkind, hid, -⟩ := h.found
      exact ofRecord?_of_reads <| (hkind.variant hmake).bind <| hid.required.bind <| reads_pure _

instance : Form Termination := ⟨RecordVaries
  { fields := [.required FiberId "fiber_id", .required CableId "cable_id",
      .required UInt32 "fiber_number_absolute", .required UInt32 "bundle_number",
      .required String "color", .required String "cable_name"] }⟩

instance : Lenient Termination where
  varies_encode t := .self (by simp)
  decode?_of_varies h := by
    obtain ⟨members, rfl, hfiber, hcable, habsolute, hbundle, hcolor, hcableName, -⟩ := h.found
    exact ofRecord?_of_reads <| hfiber.required.bind <| hcable.required.bind <|
      habsolute.required.bind <| hbundle.required.bind <| hcolor.required.bind <|
      hcableName.required.bind <| reads_pure _

instance : NeverNull Termination := ⟨rfl⟩

instance : Form GroupSpan := ⟨RecordVaries
  { fields := [.required (List PortNumber) "port_numbers", .required UInt64 "size"] }⟩

instance : Lenient GroupSpan where
  varies_encode s := .self (by simp)
  decode?_of_varies h := by
    obtain ⟨members, rfl, hports, hsize, -⟩ := h.found
    exact ofRecord?_of_reads <| hports.required.bind <| hsize.required.bind <| reads_pure _

instance : NeverNull GroupSpan := ⟨rfl⟩

instance : Form Endpoint := ⟨RecordVaries
  { fields := [.optional Termination "fiber", .optional MergeGroupId "merge_group",
      .optional GroupSpan "merge_info"] }⟩

instance : Lenient Endpoint where
  varies_encode e := .self (by simp)
  decode?_of_varies h := by
    obtain ⟨members, rfl, hfiber, hgroup, hspan, -⟩ := h.found
    exact ofRecord?_of_reads <| hfiber.optional.bind <| hgroup.optional.bind <|
      hspan.optional.bind <| reads_pure _

instance : Form Splice := ⟨RecordVaries
  { fields := [.required RowId "id", .required StructureId "structure_id",
      .required PortNumber "port_number", .required Endpoint "endpoint_a",
      .required Endpoint "endpoint_b"] }⟩

instance : Lenient Splice where
  varies_encode row := .self (by simp)
  decode?_of_varies h := by
    obtain ⟨members, rfl, hid, hstructure, hport, ha, hb, -⟩ := h.found
    exact ofRecord?_of_reads <| hid.required.bind <| hstructure.required.bind <|
      hport.required.bind <| ha.required.bind <| hb.required.bind <| reads_pure _

/-! ### Merge groups -/

instance : Form MergeGroup := ⟨RecordVaries
  { fields := [.required MergeGroupId "id", .required StructureId "structure_id",
      .required Side "side", .required (List PortNumber) "port_numbers",
      .defaulted "fibers" ([] : List Termination)] }⟩

instance : Lenient MergeGroup where
  varies_encode g := .self (by simp)
  decode?_of_varies h := by
    obtain ⟨members, rfl, hid, hstructure, hside, hports, hfibers, -⟩ := h.found
    exact ofRecord?_of_reads <| hid.required.bind <| hstructure.required.bind <|
      hside.required.bind <| hports.required.bind <| hfibers.defaulted.bind <| reads_pure _

/-! ### The editor -/

instance : Form SelectedStructure := ⟨RecordVaries
  { fields := [.required Structure "structure", .required (List Port) "ports"] }⟩

instance : Lenient SelectedStructure where
  varies_encode s := .self (by simp)
  decode?_of_varies h := by
    obtain ⟨members, rfl, hrecord, hports, -⟩ := h.found
    exact ofRecord?_of_reads <| hrecord.required.bind <| hports.required.bind <| reads_pure _

instance : NeverNull SelectedStructure := ⟨rfl⟩

instance : Form Editor := ⟨RecordVaries
  { fields := [.optional SelectedStructure "selected", .required (List Splice) "splices",
      .required Bool "merge_mode", .required (List PortSide) "selection"] }⟩

instance : Lenient Editor where
  varies_encode e := .self (by simp)
  decode?_of_varies h := by
    obtain ⟨members, rfl, hselected, hrows, hmergeMode, hselection, -⟩ := h.found
    exact ofRecord?_of_reads <| hselected.optional.bind <| hrows.required.bind <|
      hmergeMode.required.bind <| hselection.required.bind <| reads_pure _

end CrossConnect.Wire
