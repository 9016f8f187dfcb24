import CrossConnect.Failure
import CrossConnect.Uuid

/-!
Typed identifiers, the identity of a splice row, and the stream that new identifiers are drawn from.
-/
namespace CrossConnect

inductive IdKind
  | structureId
  | componentTypeId
  | cableId
  | fiberId
  | mergeGroupId
deriving DecidableEq, Repr

def IdKind.name : IdKind → String
  | structureId => "StructureId"
  | componentTypeId => "ComponentTypeId"
  | cableId => "CableId"
  | fiberId => "FiberId"
  | mergeGroupId => "MergeGroupId"

def IdKind.all : List IdKind :=
  [structureId, componentTypeId, cableId, fiberId, mergeGroupId]

structure Id (kind : IdKind) where
  uuid : Uuid
deriving DecidableEq, Repr

instance {kind : IdKind} : ToString (Id kind) := ⟨fun id => toString id.uuid⟩

def Failure.invalidId (kind : IdKind) (text : String) : Failure :=
  ⟨.validation, s!"invalid {kind.name} '{text}': not a UUID"⟩

def Id.parse (kind : IdKind) (text : String) : Except Failure (Id kind) :=
  match Uuid.parse? text with
  | some uuid => .ok ⟨uuid⟩
  | none => .error (.invalidId kind text)

abbrev StructureId := Id .structureId
abbrev ComponentTypeId := Id .componentTypeId
abbrev CableId := Id .cableId
abbrev FiberId := Id .fiberId
abbrev MergeGroupId := Id .mergeGroupId

/-- Identity of a splice row. A row made up locally is temporary until the authority answers with
the persisted one. -/
inductive RowId
  | persisted (uuid : Uuid)
  | temporary (uuid : Uuid)
deriving DecidableEq, Repr

def RowId.isTemporary : RowId → Bool
  | persisted _ => false
  | temporary _ => true

structure IdSource where
  draw : Nat → Uuid
  drawn : Nat := 0

namespace IdSource

def next (ids : IdSource) : Uuid × IdSource :=
  (ids.draw ids.drawn, { ids with drawn := ids.drawn + 1 })

def numbered (leading : BitVec 96) (start : Nat) : IdSource :=
  { draw := fun n => ⟨leading ++ BitVec.ofNat 32 (start + n)⟩ }

def skip (ids : IdSource) (count : Nat) : IdSource :=
  { ids with drawn := ids.drawn + count }

end IdSource
end CrossConnect
