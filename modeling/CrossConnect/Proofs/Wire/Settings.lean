import CrossConnect.Proofs.Wire.Forms
import CrossConnect.Wire.Settings

/-!
The forms of settings, in which every entry may be left out, and that each is read leniently.
-/
namespace CrossConnect.Wire

/-! ### Settings of the client -/

instance : Form FillSettings := ⟨RecordVaries
  { fields := [.optional Bool "spill_into_next_structures", .optional UInt64 "max_structures"] }⟩

instance : Lenient FillSettings where
  varies_encode s := .self (by simp)
  decode?_of_varies h := by
    obtain ⟨members, rfl, hspill, hmaxStructures, -⟩ := h.found
    exact ofRecord?_of_reads <| hspill.optional.bind <| hmaxStructures.optional.bind <|
      reads_pure _

instance : NeverNull FillSettings := ⟨rfl⟩

instance : Form MergeSettings := ⟨RecordVaries { fields := [.optional UInt64 "max_group_size"] }⟩

instance : Lenient MergeSettings where
  varies_encode s := .self (by simp)
  decode?_of_varies h := by
    obtain ⟨members, rfl, hmaxGroupSize, -⟩ := h.found
    exact ofRecord?_of_reads <| hmaxGroupSize.optional.bind <| reads_pure _

instance : NeverNull MergeSettings := ⟨rfl⟩

instance : Form NoticeSettings := ⟨RecordVaries { fields := [.optional UInt64 "max_retained"] }⟩

instance : Lenient NoticeSettings where
  varies_encode s := .self (by simp)
  decode?_of_varies h := by
    obtain ⟨members, rfl, hmaxRetained, -⟩ := h.found
    exact ofRecord?_of_reads <| hmaxRetained.optional.bind <| reads_pure _

instance : NeverNull NoticeSettings := ⟨rfl⟩

instance : Form ClientSettings := ⟨RecordVaries
  { fields := [.optional FillSettings "fill", .optional MergeSettings "merge",
      .optional NoticeSettings "notices"] }⟩

instance : Lenient ClientSettings where
  varies_encode s := .self (by simp)
  decode?_of_varies h := by
    obtain ⟨members, rfl, hfill, hmerge, hnotices, -⟩ := h.found
    exact ofRecord?_of_reads <| hfill.optional.bind <| hmerge.optional.bind <|
      hnotices.optional.bind <| reads_pure _

/-! ### Settings of the authority -/

instance : Form LimitSettings := ⟨RecordVaries
  { fields := [.optional UInt64 "max_merge_group_size", .optional UInt64 "max_merged_fibers"] }⟩

instance : Lenient LimitSettings where
  varies_encode s := .self (by simp)
  decode?_of_varies h := by
    obtain ⟨members, rfl, hmaxGroupSize, hmaxMergedFibers, -⟩ := h.found
    exact ofRecord?_of_reads <| hmaxGroupSize.optional.bind <|
      hmaxMergedFibers.optional.bind <| reads_pure _

instance : NeverNull LimitSettings := ⟨rfl⟩

instance : Form ServerSettings := ⟨RecordVaries
  { fields := [.optional UInt64 "latency_ms", .optional LimitSettings "limits",
      .optional (List String) "failpoints"] }⟩

instance : Lenient ServerSettings where
  varies_encode s := .self (by simp)
  decode?_of_varies h := by
    obtain ⟨members, rfl, hlatency, hlimits, hfailpoints, -⟩ := h.found
    exact ofRecord?_of_reads <| hlatency.optional.bind <| hlimits.optional.bind <|
      hfailpoints.optional.bind <| reads_pure _

end CrossConnect.Wire
