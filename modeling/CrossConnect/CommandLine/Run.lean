import CrossConnect.Client.Operation
import CrossConnect.CommandLine.Arguments
import CrossConnect.CommandLine.Inspect
import CrossConnect.Text.Hidden
import CrossConnect.Wire.Report

/-!
Running a command on the files of a working directory.
-/
namespace CrossConnect.CommandLine

structure Console where
  files : FileTree
  output : String := ""
  errorOutput : String := ""

abbrev Script (α : Type) : Type :=
  ExceptT (List String) (StateM Console) α

namespace Script

def print (line : String) : Script Unit :=
  modify fun c => { c with output := c.output ++ line ++ "\n" }

def printError (line : String) : Script Unit :=
  modify fun c => { c with errorOutput := c.errorOutput ++ line ++ "\n" }

def access {α : Type} (heading : String) (a : Datastore.Access α) : Script α := do
  let console ← get
  let (result, files) := a.run.run console.files
  set { console with files }
  match result with
  | .ok value => return value
  | .error e => throw [heading, e.display]

def change (heading : String) (f : FileTree → Except FileError FileTree) : Script Unit := do
  let console ← get
  match f console.files with
  | .ok files => set { console with files }
  | .error e => throw [heading, e.message]

end Script

open Script

def openServer (folder : String) (ids : IdSource) : Script Server :=
  access s!"open node under {folder}" (Datastore.openServer folder ids)

def printOverviews (server : Server) : List Structure → Script Unit
  | [] => return
  | record :: rest => do
    let (view, server) := overview server record
    view.lines.forM print
    match view.failure with
    | some e => throw [e.display]
    | none => printOverviews server rest

def InspectArguments.shown (arguments : InspectArguments) (server : Server) : List Structure :=
  server.registry.structuresBySlot.filter fun s => arguments.only.all (· = s.name)

def inspectOn (arguments : InspectArguments) (server : Server) : Script Unit := do
  printOverviews server (arguments.shown server)
  if (arguments.shown server).isEmpty then
    throw [s!"no structure matched (filter={Text.quotedOption arguments.only})"]

def inspect (arguments : InspectArguments) (ids : IdSource) : Script Unit := do
  inspectOn arguments (← openServer arguments.datastore ids)

def levelName : NoticeLevel → String
  | .info => "Info"
  | .success => "Success"
  | .warning => "Warning"
  | .error => "Error"

def outcomeJson (outcome : FillOutcome) : Json :=
  let error := match outcome with
    | .failed e _ => Json.string e.display
    | .rejected reason => .string reason
    | _ => .null
  Json.sortNames <| .object
    [("status", .string outcome.status), ("error", error), ("report", Wire.encode outcome.report?)]

def outcomeLine : FillOutcome → String
  | .connected report =>
    s!"connected {report.placed} fibers across {report.structures.length} structures"
  | .partiallyConnected report => s!"connected {report.placed} of {report.total} fibers"
  | .failed e report => s!"failed after {report.placed} of {report.total} fibers: {e.message}"
  | .rejected reason => s!"rejected: {reason}"

def fillJob (arguments : FillArguments) (cable : Cable) (structures : List Structure) :
    Except String (Job FillOutcome) :=
  let start : PortSide := ⟨arguments.port, arguments.side⟩
  match arguments.bundle with
  | none => .ok (Client.dropCable start cable structures)
  | some number =>
    match cable.bundles.find? (·.number = number) with
    | some bundle => .ok (Client.dropBundle start bundle)
    | none => .error s!"cable '{arguments.cable}' has no bundle {number}"

def fillOn (arguments : FillArguments) (settings : ClientSettings) (clientIds : IdSource)
    (server : Server) : Except (List String) (FillOutcome × Client × Server) := do
  let structures := server.registry.structuresBySlot
  let some start := structures.find? (·.name = arguments.start)
    | throw [s!"structure '{arguments.start}' not found"]
  let some cable := server.registry.cablesByName.find? (·.name = arguments.cable)
    | throw [s!"cable '{arguments.cable}' not found"]
  let (selected, client, server) :=
    (Client.select start).run Server.answer (.ofSettings settings clientIds) server
  if !selected then throw [s!"could not load structure '{arguments.start}'"]
  match fillJob arguments cable structures with
  | .error message => throw [message]
  | .ok job => return job.run Server.answer client server

def tellFill (arguments : FillArguments) (outcome : FillOutcome) (notices : List Notice) :
    Script Unit := do
  notices.forM fun notice => printError s!"{levelName notice.level}: {notice.message}"
  print (if arguments.json then (outcomeJson outcome).pretty else outcomeLine outcome)
  if !outcome.isSuccess then throw ["fill did not complete"]

def fill (arguments : FillArguments) (serverIds clientIds : IdSource) : Script Unit := do
  let server ← openServer arguments.datastore serverIds
  let settings ← access s!"load engine config under {arguments.datastore}"
    (Datastore.clientSettings arguments.datastore)
  let (outcome, client, _) ← liftExcept (fillOn arguments settings clientIds server)
  tellFill arguments outcome client.notices.items

def writeSettings {α : Type} [Wire α] (folder name : String) (value : α) (force : Bool) :
    Script Unit := do
  let path := Path.join folder name
  if (← get).files.contains path && !force then print s!"kept existing {path}"
  else
    change s!"write {path}" (·.write path ((Wire.encode value).pretty ++ "\n"))
    print s!"Wrote {path}"

def initConfig (arguments : InitArguments) : Script Unit := do
  let folder := arguments.datastore
  change s!"failed to create {folder}" (·.makeFolders folder)
  writeSettings folder Datastore.serverFile ServerSettings.standard arguments.force
  writeSettings folder Datastore.clientFile ClientSettings.standard arguments.force
  let plan := Datastore.planPath folder
  if !(← get).files.contains plan then
    print s!"no {plan} found; the embedded sample node will be used"

def Command.script (serverIds clientIds : IdSource) : Command → Script Unit
  | .inspect arguments => CommandLine.inspect arguments serverIds
  | .fill arguments => CommandLine.fill arguments serverIds clientIds
  | .initConfig arguments => CommandLine.initConfig arguments

def Command.run (command : Command) (files : FileTree) (serverIds clientIds : IdSource) :
    Except (List String) Unit × Console :=
  (command.script serverIds clientIds).run.run { files }

end CrossConnect.CommandLine
