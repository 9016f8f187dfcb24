import CrossConnect.Splice

/-!
Which ports are taken and which are free, read off the ports and rows of one structure.
-/
namespace CrossConnect.Occupancy

def sidePorts (ports : List Port) (side : Side) : List PortNumber :=
  ascending ((ports.filter (·.direction = side.direction)).map (·.number))

def row (rows : List Splice) (port : PortNumber) : Option Splice :=
  rows.find? (·.port = port)

def groupOf (rows : List Splice) (spot : PortSide) : Option MergeGroupId :=
  (row rows spot.port).bind (·.group spot.side)

def groupPorts (rows : List Splice) (group : MergeGroupId) (side : Side) : List PortNumber :=
  sortNumbers ((rows.filter (·.group side = some group)).map (·.port))

def groupSide (rows : List Splice) (group : MergeGroupId) : Option Side :=
  [Side.a, Side.b].find? fun side => rows.any (·.group side = some group)

/-- The fiber on a port side, recorded on its own row or on any row of its merge group. -/
def occupant (rows : List Splice) (spot : PortSide) : Option Termination :=
  match row rows spot.port with
  | none => none
  | some r =>
    match r.fiber spot.side, r.group spot.side with
    | some fiber, _ => some fiber
    | none, none => none
    | none, some group =>
      (rows.filter (·.group spot.side = some group)).findSome? (·.fiber spot.side)

def isOccupied (rows : List Splice) (spot : PortSide) : Bool :=
  (occupant rows spot).isSome

/-- Free ports of a side from `start` upward, up to the first occupied port. -/
def available (ports : List Port) (rows : List Splice) (side : Side) (start : PortNumber) :
    List PortNumber :=
  ((sidePorts ports side).filter (start ≤ ·)).takeWhile fun port => !isOccupied rows ⟨port, side⟩

/-- Ports written together with a port: those of its merge group, or the port alone. -/
def fanOut (rows : List Splice) (spot : PortSide) : List PortNumber :=
  match groupOf rows spot with
  | some group => groupPorts rows group spot.side
  | none => [spot.port]

end CrossConnect.Occupancy
