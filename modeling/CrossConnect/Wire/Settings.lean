import CrossConnect.Settings
import CrossConnect.Wire.Basic

/-!
The JSON form of settings. Entries are written even when they are left out, as null.
-/
namespace CrossConnect.Wire
open FieldReader

instance : Wire FillSettings where
  encode s := .object
    [("spill_into_next_structures", encode s.spill), ("max_structures", encode s.maxStructures)]
  decode? := ofRecord? do
    let spill ← optional "spill_into_next_structures"
    let maxStructures ← optional "max_structures"
    return { spill, maxStructures }

instance : Wire MergeSettings where
  encode s := .object [("max_group_size", encode s.maxGroupSize)]
  decode? := ofRecord? do
    let maxGroupSize ← optional "max_group_size"
    return { maxGroupSize }

instance : Wire NoticeSettings where
  encode s := .object [("max_retained", encode s.maxRetained)]
  decode? := ofRecord? do
    let maxRetained ← optional "max_retained"
    return { maxRetained }

instance : Wire ClientSettings where
  encode s := .object
    [("fill", encode s.fill), ("merge", encode s.merge), ("notices", encode s.notices)]
  decode? := ofRecord? do
    let fill ← optional "fill"
    let merge ← optional "merge"
    let notices ← optional "notices"
    return { fill, merge, notices }

instance : Wire LimitSettings where
  encode s := .object
    [("max_merge_group_size", encode s.maxGroupSize),
      ("max_merged_fibers", encode s.maxMergedFibers)]
  decode? := ofRecord? do
    let maxGroupSize ← optional "max_merge_group_size"
    let maxMergedFibers ← optional "max_merged_fibers"
    return { maxGroupSize, maxMergedFibers }

instance : Wire ServerSettings where
  encode s := .object
    [("latency_ms", encode s.latency), ("limits", encode s.limits),
      ("failpoints", encode s.failpoints)]
  decode? := ofRecord? do
    let latency ← optional "latency_ms"
    let limits ← optional "limits"
    let failpoints ← optional "failpoints"
    return { latency, limits, failpoints }

end CrossConnect.Wire
