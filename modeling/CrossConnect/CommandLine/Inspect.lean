import CrossConnect.Occupancy
import CrossConnect.Server

/-!
The printed overview of a structure: its slots, how many ports are free, and its rows.
-/
namespace CrossConnect.CommandLine

def describeEndpoint (e : Endpoint) : String :=
  let fiber := match e.fiber with
    | some fiber => s!"{fiber.cableName}#{fiber.absolute}"
    | none => "-"
  match e.span with
  | some span => s!"{fiber} (merged {span.label})"
  | none => fiber

def padLeft (width : Nat) (text : String) : String :=
  String.ofList (List.replicate (width - text.length) ' ') ++ text

def describeRow (row : Splice) : String :=
  s!"port {padLeft 3 (toString row.port)}  A: {describeEndpoint row.endpointA}  " ++
    s!"B: {describeEndpoint row.endpointB}"

def describeSide (ports : List Port) (rows : List Splice) (side : Side) : String :=
  let numbers := Occupancy.sidePorts ports side
  let free := numbers.filter fun port => !Occupancy.isOccupied rows ⟨port, side⟩
  s!"  side {side}: {numbers.length} ports, {free.length} free"

structure Overview where
  lines : List String
  failure : Option Failure := none
deriving DecidableEq, Repr

def overview (server : Server) (record : Structure) : Overview × Server :=
  let heading := s!"{record.name} [slots {record.slotStart}-{record.slotEnd}]"
  match record.componentType with
  | none => ({ lines := [heading, "  no ports"] }, server)
  | some componentType =>
    match server.answer (.portsOf componentType) with
    | (.error e, server) => ({ lines := [heading], failure := some e }, server)
    | (.ok ports, server) =>
      match server.answer (.rowsOf record.id) with
      | (.error e, server) => ({ lines := [heading], failure := some e }, server)
      | (.ok rows, server) =>
        let sides := [Side.a, Side.b].map (describeSide ports rows)
        ({ lines := heading :: sides ++ rows.map fun row => "  " ++ describeRow row }, server)

end CrossConnect.CommandLine
