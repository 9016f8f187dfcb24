import CrossConnect.Registry

/-!
Settings of the client and of the authority. Every entry may be left out; the functions say what
holds then.
-/
namespace CrossConnect

structure FillSettings where
  spill : Option Bool := none
  maxStructures : Option UInt64 := none
deriving DecidableEq, Repr

structure MergeSettings where
  maxGroupSize : Option UInt64 := none
deriving DecidableEq, Repr

structure NoticeSettings where
  maxRetained : Option UInt64 := none
deriving DecidableEq, Repr

structure ClientSettings where
  fill : Option FillSettings := none
  merge : Option MergeSettings := none
  notices : Option NoticeSettings := none
deriving DecidableEq, Repr

namespace ClientSettings

def defaultMaxNotices : UInt64 := 50

def standard : ClientSettings :=
  { fill := some { spill := some true }
    merge := some {}
    notices := some { maxRetained := some defaultMaxNotices } }

def spills (s : ClientSettings) : Bool :=
  (s.fill.bind (·.spill)).getD true

def maxStructures (s : ClientSettings) : Option Nat :=
  (s.fill.bind (·.maxStructures)).map UInt64.toNat

def maxGroupSize (s : ClientSettings) : Option Nat :=
  (s.merge.bind (·.maxGroupSize)).map UInt64.toNat

def maxNotices (s : ClientSettings) : Nat :=
  ((s.notices.bind (·.maxRetained)).getD defaultMaxNotices).toNat

end ClientSettings

structure LimitSettings where
  maxGroupSize : Option UInt64 := none
  maxMergedFibers : Option UInt64 := none
deriving DecidableEq, Repr

structure ServerSettings where
  latency : Option UInt64 := none
  limits : Option LimitSettings := none
  failpoints : Option (List String) := none
deriving DecidableEq, Repr

namespace ServerSettings

def defaultLimit : UInt64 := 144

def standard : ServerSettings :=
  { limits := some { maxGroupSize := some defaultLimit, maxMergedFibers := some defaultLimit } }

def withLatency (s : ServerSettings) (milliseconds : UInt64) : ServerSettings :=
  { s with latency := some milliseconds }

def withFailpoint (s : ServerSettings) (key : String) : ServerSettings :=
  { s with failpoints := some (s.failpoints.getD [] ++ [key]) }

def effectiveLatency (s : ServerSettings) : Option UInt64 :=
  s.latency.filter (0 < ·)

def effectiveLimits (s : ServerSettings) : Limits :=
  { groupSize := ((s.limits.bind (·.maxGroupSize)).getD defaultLimit).toNat
    uploadSize := ((s.limits.bind (·.maxMergedFibers)).getD defaultLimit).toNat }

end ServerSettings
end CrossConnect
