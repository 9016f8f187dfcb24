import CrossConnect.Id
import CrossConnect.Json.Reader

/-!
The JSON form of values. Records are written as objects and read from objects, where members of
other names are passed over and a known name may come once only, or from arrays that list the fields
in order.
-/
namespace CrossConnect

class Wire (α : Type) where
  encode : α → Json
  decode? : Json → Option α

namespace Wire

def ofText? {α : Type} [Wire α] (text : String) : Option α :=
  (Json.parse? text).bind decode?

/-! ### Scalars, lists and optional values -/

instance : Wire Bool := ⟨.bool, Json.bool?⟩

instance : Wire String := ⟨.string, Json.string?⟩

def natBelow? (bound : Nat) : Json → Option Nat
  | .natural n => if n < bound then some n else none
  | _ => none

instance : Wire UInt32 where
  encode n := .natural n.toNat
  decode? j := (natBelow? UInt32.size j).map UInt32.ofNat

instance : Wire UInt64 where
  encode n := .natural n.toNat
  decode? j := (natBelow? UInt64.size j).map UInt64.ofNat

instance : Wire Nat where
  encode n := .natural n
  decode? := natBelow? UInt64.size

instance {α : Type} [Wire α] : Wire (List α) where
  encode values := .array (values.map encode)
  decode? j := j.items?.bind (·.mapM decode?)

instance {α : Type} [Wire α] : Wire (Option α) where
  encode
    | some value => encode value
    | none => .null
  decode?
    | .null => some none
    | j => (decode? j).map some

instance : Wire Unit where
  encode _ := .null
  decode?
    | .null => some ()
    | _ => none

/-- A name that stands alone or is the only member of an object, with nothing under it. -/
def variant? : Json → Option String
  | .string name => some name
  | .object [(name, .null)] => some name
  | _ => none

/-! ### Records -/

inductive Record
  | named (members : List (String × Json))
  | listed (items : List Json)

abbrev FieldReader : Type → Type :=
  StateT Record Option

namespace FieldReader

/-- The value of the next field, absent where no member has its name or the list has ended. A name
that comes twice fails. -/
def next (name : String) : FieldReader (Option Json)
  | .named members =>
    match members.filter (·.1 == name) with
    | [] => some (none, .named members)
    | [(_, value)] => some (some value, .named members)
    | _ => none
  | .listed [] => some (none, .listed [])
  | .listed (item :: items) => some (some item, .listed items)

def required {α : Type} [Wire α] (name : String) : FieldReader α := do
  match ← next name with
  | some value => decode? value
  | none => failure

def optional {α : Type} [Wire α] (name : String) : FieldReader (Option α) := do
  match ← next name, ← get with
  | some value, _ => decode? value
  | none, .named _ => return none
  | none, .listed _ => failure

def defaulted {α : Type} [Wire α] (name : String) (default : α) : FieldReader α := do
  match ← next name with
  | some value => decode? value
  | none => return default

def variant {α : Type} (name : String) (ofName? : String → Option α) : FieldReader α := do
  match ← next name with
  | some value => (variant? value).bind ofName?
  | none => failure

end FieldReader

/-- Reads all fields of a record; a list may not have more items than there are fields. -/
def ofRecord? {α : Type} (fields : FieldReader α) : Json → Option α
  | .object members => (fields.run (.named members)).map Prod.fst
  | .array items =>
    match fields.run (.listed items) with
    | some (value, .listed []) => some value
    | _ => none
  | _ => none

/-- Reads a record whose first field is a tag; a list has the bare name of the tag in front. -/
def ofTagged? {α : Type} (fields : FieldReader α) : Json → Option α
  | .array (.string tag :: items) => ofRecord? fields (.array (.string tag :: items))
  | .array _ => none
  | j => ofRecord? fields j

/-! ### Identifiers -/

instance : Wire Uuid where
  encode id := .string id.toText
  decode? j := j.string?.bind Uuid.parse?

instance {kind : IdKind} : Wire (Id kind) where
  encode id := encode id.uuid
  decode? j := (decode? j).map Id.mk

end Wire
end CrossConnect
