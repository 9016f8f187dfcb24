import CrossConnect.Proofs.Wire.Forms
import CrossConnect.Wire.Node

/-!
The forms of ports, structures, fibers and plans, and that each is read leniently.
-/
namespace CrossConnect.Wire

instance : Scalar Side where
  decode?_encode side := by cases side <;> rfl

instance : Scalar Direction where
  decode?_encode direction := by cases direction <;> rfl

/-! ### Ports and structures -/

instance : Form PortSide := ⟨RecordVaries
  { fields := [.required PortNumber "port_number", .required Side "side"] }⟩

instance : Lenient PortSide where
  varies_encode spot := .self (by simp)
  decode?_of_varies h := by
    obtain ⟨members, rfl, hport, hside, -⟩ := h.found
    exact ofRecord?_of_reads <| hport.required.bind <| hside.required.bind <| reads_pure _

instance : Form Port := ⟨RecordVaries
  { fields := [.required PortNumber "port_number", .required Direction "direction",
      .defaulted "label" (none : Option String)] }⟩

instance : Lenient Port where
  varies_encode port := .self (by simp)
  decode?_of_varies h := by
    obtain ⟨members, rfl, hnumber, hdirection, hlabel, -⟩ := h.found
    exact ofRecord?_of_reads <| hnumber.required.bind <| hdirection.required.bind <|
      hlabel.defaulted.bind <| reads_pure _

instance : Form Structure := ⟨RecordVaries
  { fields := [.required StructureId "id", .required String "name", .required UInt32 "slot_start",
      .required UInt32 "slot_end", .optional ComponentTypeId "component_type"] }⟩

instance : Lenient Structure where
  varies_encode s := .self (by simp)
  decode?_of_varies h := by
    obtain ⟨members, rfl, hid, hname, hstart, hend, hcomponentType, -⟩ := h.found
    exact ofRecord?_of_reads <| hid.required.bind <| hname.required.bind <|
      hstart.required.bind <| hend.required.bind <| hcomponentType.optional.bind <| reads_pure _

/-! ### Fibers -/

instance : Form Fiber := ⟨RecordVaries
  { fields := [.required FiberId "id", .required CableId "cable_id",
      .required UInt32 "fiber_number_absolute", .required UInt32 "fiber_number_in_bundle",
      .required UInt32 "bundle_number", .required String "color"] }⟩

instance : Lenient Fiber where
  varies_encode f := .self (by simp)
  decode?_of_varies h := by
    obtain ⟨members, rfl, hid, hcable, habsolute, hinBundle, hbundle, hcolor, -⟩ := h.found
    exact ofRecord?_of_reads <| hid.required.bind <| hcable.required.bind <|
      habsolute.required.bind <| hinBundle.required.bind <| hbundle.required.bind <|
      hcolor.required.bind <| reads_pure _

/-! ### Plans -/

instance : Form ComponentPlan := ⟨RecordVaries
  { fields := [.required ComponentTypeId "id", .required String "name", .required UInt32 "in_ports",
      .required UInt32 "out_ports"] }⟩

instance : Lenient ComponentPlan where
  varies_encode p := .self (by simp)
  decode?_of_varies h := by
    obtain ⟨members, rfl, hid, hname, hinward, houtward, -⟩ := h.found
    exact ofRecord?_of_reads <| hid.required.bind <| hname.required.bind <|
      hinward.required.bind <| houtward.required.bind <| reads_pure _

instance : Form BundlePlan := ⟨RecordVaries
  { fields := [.required UInt32 "bundle_number", .required UInt32 "fiber_count"] }⟩

instance : Lenient BundlePlan where
  varies_encode p := .self (by simp)
  decode?_of_varies h := by
    obtain ⟨members, rfl, hnumber, hfiberCount, -⟩ := h.found
    exact ofRecord?_of_reads <| hnumber.required.bind <| hfiberCount.required.bind <| reads_pure _

instance : Form CablePlan := ⟨RecordVaries
  { fields := [.required CableId "id", .required String "name",
      .required (List BundlePlan) "bundles"] }⟩

instance : Lenient CablePlan where
  varies_encode p := .self (by simp)
  decode?_of_varies h := by
    obtain ⟨members, rfl, hid, hname, hbundles, -⟩ := h.found
    exact ofRecord?_of_reads <| hid.required.bind <| hname.required.bind <|
      hbundles.required.bind <| reads_pure _

instance : Form NodePlan := ⟨RecordVaries
  { fields := [.required String "name", .required (List ComponentPlan) "component_types",
      .required (List Structure) "structures", .defaulted "cables" ([] : List CablePlan)] }⟩

instance : Lenient NodePlan where
  varies_encode p := .self (by simp)
  decode?_of_varies h := by
    obtain ⟨members, rfl, hname, hcomponentTypes, hstructures, hcables, -⟩ := h.found
    exact ofRecord?_of_reads <| hname.required.bind <| hcomponentTypes.required.bind <|
      hstructures.required.bind <| hcables.defaulted.bind <| reads_pure _

end CrossConnect.Wire
