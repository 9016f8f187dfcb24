import CrossConnect.Client.Outcome
import CrossConnect.Notice
import CrossConnect.Server
import CrossConnect.Wire.Splice

/-!
The JSON form of notices, reports, requests and the answers to calls.
-/
namespace CrossConnect.Wire
open FieldReader

def noticeLevelName : NoticeLevel → String
  | .info => "info"
  | .success => "success"
  | .warning => "warning"
  | .error => "error"

def noticeLevelOfName? : String → Option NoticeLevel
  | "info" => some .info
  | "success" => some .success
  | "warning" => some .warning
  | "error" => some .error
  | _ => none

instance : Wire NoticeLevel where
  encode level := .string (noticeLevelName level)
  decode? j := (variant? j).bind noticeLevelOfName?

instance : Wire Notice where
  encode n := .object
    [("level", encode n.level), ("message", encode n.message), ("code", encode n.code)]
  decode? := ofRecord? do
    let level ← required "level"
    let message ← required "message"
    let code ← optional "code"
    return { level, message, code }

instance : Wire FillReport where
  encode r := .object
    [("placed", encode r.placed), ("total", encode r.total), ("structures", encode r.structures)]
  decode? := ofRecord? do
    let placed ← required "placed"
    let total ← required "total"
    let structures ← required "structures"
    return { placed, total, structures }

instance : Wire GroupView where
  encode v := .object
    [("merge_group_id", encode v.group), ("port_numbers", encode v.ports), ("size", encode v.size),
      ("port_range", encode v.label)]
  decode? := ofRecord? do
    let group ← required "merge_group_id"
    let ports ← required "port_numbers"
    let size ← required "size"
    let label ← required "port_range"
    return { group, ports, size, label }

instance : Wire FiberRef where
  encode f := .object [("fiber_id", encode f.fiberId), ("cable_id", encode f.cableId)]
  decode? := ofRecord? do
    let fiberId ← required "fiber_id"
    let cableId ← required "cable_id"
    return { fiberId, cableId }

instance : Wire Placement where
  encode p := .object
    [("structure_id", encode p.structureId), ("port_number", encode p.spot.port),
      ("side", encode p.spot.side), ("fiber_id", encode p.fiber.fiberId),
      ("cable_id", encode p.fiber.cableId)]
  decode? := ofRecord? do
    let structureId ← required "structure_id"
    let port ← required "port_number"
    let side ← required "side"
    let fiberId ← required "fiber_id"
    let cableId ← required "cable_id"
    return { structureId, spot := { port, side }, fiber := { fiberId, cableId } }

instance : Wire ClearOutcome where
  encode o := .object [("deleted", encode o.deleted)]
  decode? := ofRecord? do
    let deleted ← required "deleted"
    return { deleted }

/-! ### Written only -/

def failureJson (e : Failure) : Json :=
  .object [("error", .string e.kind.code), ("message", .string e.message)]

def fillOutcomeJson (o : FillOutcome) : Json :=
  let cause := match o with
    | .failed e _ => [("error", failureJson e)]
    | .rejected reason => [("reason", .string reason)]
    | _ => []
  .object
    ([("status", .string o.status), ("report", encode o.report?), ("success", .bool o.isSuccess)] ++
      cause)

def dropOutcomeJson (o : DropOutcome) : Json :=
  let outcome := match o with
    | .fiber connected => ("fiber", .bool connected)
    | .fill o => ("fill", fillOutcomeJson o)
    | .rejected reason => ("rejected", .string reason)
  .object [outcome, ("success", .bool o.isSuccess)]

def outcomeJson : Outcome → Json
  | .flag value => .bool value
  | .fill o => fillOutcomeJson o
  | .drop o => dropOutcomeJson o

def callMembers : Call → List (String × Json)
  | .portsOf id => [("component_type", encode id)]
  | .rowsOf id => [("structure", encode id)]
  | .fibersOf id => [("cable", encode id)]
  | .place p =>
    [("structure", encode p.structureId), ("port", encode p.spot.port),
      ("side", encode p.spot.side), ("fiber", encode p.fiber.fiberId),
      ("cable", encode p.fiber.cableId)]
  | .clear id spot =>
    [("structure", encode id), ("port", encode spot.port), ("side", encode spot.side)]
  | .merge id ports side =>
    [("structure", encode id), ("ports", encode ports), ("side", encode side)]
  | .unmerge group ports => [("group", encode group), ("ports", encode ports)]
  | .upload group side fibers =>
    [("group", encode group), ("side", encode side), ("fibers", encode fibers)]

def callJson (c : Call) : Json :=
  .object (("call", .string c.name) :: callMembers c)

def answer? : (c : Call) → Json → Option c.Answer
  | .portsOf _ => decode?
  | .rowsOf _ => decode?
  | .fibersOf _ => decode?
  | .place _ => decode?
  | .clear _ _ => decode?
  | .merge _ _ _ => decode?
  | .unmerge _ _ => decode?
  | .upload _ _ _ => decode?

end CrossConnect.Wire
