import CrossConnect.FileTree
import CrossConnect.Json.Printer
import CrossConnect.Server
import CrossConnect.Wire.Node
import CrossConnect.Wire.Settings

/-!
The data directory of a node: its settings files, written with their standard content where they are
missing, and the plan of the node, a sample where it has none of its own.
-/
namespace CrossConnect

namespace NodePlan

private def tray : ComponentTypeId := ⟨⟨0x6f1c2a8e4b7d4c1e9a510d2f3b4c5e60#128⟩⟩

private def splitter : ComponentTypeId := ⟨⟨0x8a3e5d217c4f4e2bb6a91f0e2d3c4b5a#128⟩⟩

def sample : NodePlan where
  name := "POP Nord"
  componentTypes :=
    [{ id := tray, name := "Splice tray 12F", inward := 12, outward := 12 },
      { id := splitter, name := "Splitter 1x8", inward := 1, outward := 8 }]
  structures :=
    [{ id := ⟨⟨0x0b9f3c7a1d2e4f5a8b6c7d8e9f0a1b2c#128⟩⟩
       name := "Tray 1", slotStart := 1, slotEnd := 2, componentType := some tray },
      { id := ⟨⟨0x1c0a4d8b2e3f4a6b9c7d8e9f0a1b2c3d#128⟩⟩
        name := "Tray 2", slotStart := 3, slotEnd := 4, componentType := some tray },
      { id := ⟨⟨0x2d1b5e9c3f4a4b7c8d8e9f0a1b2c3d4e#128⟩⟩
        name := "Cable management bar", slotStart := 5, slotEnd := 5, componentType := none },
      { id := ⟨⟨0x3e2c6f0d4a5b4c8d9e9f0a1b2c3d4e5f#128⟩⟩
        name := "Splitter A", slotStart := 6, slotEnd := 6, componentType := some splitter }]
  cables :=
    [{ id := ⟨⟨0x4f3d7a1e5b6c4d9e8f0a1b2c3d4e5f60#128⟩⟩
       name := "K-Nord-24"
       bundles := [{ number := 1, fiberCount := 12 }, { number := 2, fiberCount := 12 }] },
      { id := ⟨⟨0x5a4e8b2f6c7d4eaf9a1b2c3d4e5f6071#128⟩⟩
        name := "K-Drop-4"
        bundles := [{ number := 1, fiberCount := 4 }] }]

end NodePlan

namespace Failure

def makeFolder (e : FileError) : Failure :=
  ⟨.storage, s!"create config dir: {e.message}"⟩

def readSettings (e : FileError) : Failure :=
  ⟨.storage, s!"read config: {e.message}"⟩

def writeSettings (e : FileError) : Failure :=
  ⟨.storage, s!"write config: {e.message}"⟩

def malformedSettings : Failure :=
  ⟨.validation, "malformed settings"⟩

def readPlan (path : String) (e : FileError) : Failure :=
  ⟨.storage, s!"read fixture {path}: {e.message}"⟩

def malformedPlan : Failure :=
  ⟨.validation, "node fixture parse: malformed node"⟩

end Failure

namespace Datastore

def serverFile : String := "store.json"

def clientFile : String := "engine.json"

def planFile : String := "node.json"

def defaultFolder : String := ".fibermesh"

def paths (folder : String) : List String :=
  [serverFile, clientFile, planFile].map (Path.join folder)

abbrev Access (α : Type) : Type :=
  ExceptT Failure (StateM FileTree) α

def change (f : FileTree → Except FileError FileTree) (failure : FileError → Failure) :
    Access Unit := do
  match f (← get) with
  | .ok files => set files
  | .error e => throw (failure e)

/-- The settings in a file of a folder. Where there is no such file it is made with the standard
settings, and the folder with it. -/
def settings {α : Type} [Wire α] (folder name : String) (standard : α) : Access α := do
  change (·.makeFolders folder) .makeFolder
  let path := Path.join folder name
  let files ← get
  if files.contains path then
    match files.read path with
    | .error e => throw (.readSettings e)
    | .ok text =>
      match Wire.ofText? text with
      | some settings => return settings
      | none => throw .malformedSettings
  else
    change (·.write path (Wire.encode standard).pretty) .writeSettings
    return standard

def serverSettings (folder : String) : Access ServerSettings :=
  settings folder serverFile .standard

def clientSettings (folder : String) : Access ClientSettings :=
  settings folder clientFile .standard

def planPath (folder : String) : String :=
  Path.join folder planFile

def readPlan (text : String) : Except Failure NodePlan :=
  match Wire.ofText? text with
  | some plan => .ok plan
  | none => .error .malformedPlan

def plan (folder : String) : Access NodePlan := do
  let path := planPath folder
  let files ← get
  if files.contains path then
    match files.read path with
    | .error e => throw (.readPlan path e)
    | .ok text => liftExcept (readPlan text)
  else return .sample
where
  liftExcept {β : Type} : Except Failure β → Access β
    | .ok b => pure b
    | .error e => throw e

def openServer (folder : String) (ids : IdSource) : Access Server := do
  let settings ← serverSettings folder
  let plan ← plan folder
  let server := Server.ofSettings settings ids
  match server.registry.load plan with
  | (.ok (), registry) => return { server with registry }
  | (.error e, _) => throw e

end Datastore
end CrossConnect
