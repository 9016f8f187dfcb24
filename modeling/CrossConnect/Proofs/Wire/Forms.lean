import CrossConnect.Proofs.UuidText
import CrossConnect.Wire.Basic

/-!
Other ways to write the JSON form of a value. At any depth an object may have further members, under
names that are not those of its fields, may lack a field whose value is what its absence stands for,
and may list its members in any order. Reading a record member by member does not notice.
-/
namespace CrossConnect.Wire

open FieldReader

/-! ### Varied forms -/

/-- What the JSON form of a type leaves open: `Varies α j j'` says that `j'` is `j` in other
words. -/
class Form (α : Type) where
  Varies : Json → Json → Prop

class Scalar (α : Type) [Wire α] : Prop where
  decode?_encode (value : α) : decode? (encode value) = some value

instance {α : Type} [Wire α] [Scalar α] : Form α := ⟨Eq⟩

inductive ItemsVary (varies : Json → Json → Prop) : Json → Json → Prop
  | array {items items' : List Json} (h : List.Forall₂ varies items items') :
    ItemsVary varies (.array items) (.array items')

instance {α : Type} [Form α] : Form (List α) := ⟨ItemsVary (Form.Varies α)⟩

inductive ValueVaries (varies : Json → Json → Prop) : Json → Json → Prop
  | null : ValueVaries varies .null .null
  | value {j j' : Json} (hvalue : j ≠ .null) (h : varies j j') : ValueVaries varies j j'

theorem ValueVaries.eq_null {varies : Json → Json → Prop} {j : Json}
    (h : ValueVaries varies .null j) : j = .null := by
  cases h with
  | null => rfl
  | value hvalue => exact absurd rfl hvalue

theorem ValueVaries.of_ne_null {varies : Json → Json → Prop} {j j' : Json}
    (h : ValueVaries varies j j') (hvalue : j ≠ .null) : varies j j' := by
  cases h with
  | null => exact absurd rfl hvalue
  | value _ h => exact h

instance {α : Type} [Form α] : Form (Option α) := ⟨ValueVaries (Form.Varies α)⟩

structure FieldForm where
  name : String
  spare : Option Json
  varies : Json → Json → Prop

namespace FieldForm

def required (α : Type) [Form α] (name : String) : FieldForm :=
  { name, spare := none, varies := Form.Varies α }

def optional (α : Type) [Form α] (name : String) : FieldForm :=
  { name, spare := some .null, varies := Form.Varies (Option α) }

def defaulted {α : Type} [Wire α] [Form α] (name : String) (default : α) : FieldForm :=
  { name, spare := some (encode default), varies := Form.Varies α }

section names

variable (α : Type) [Form α] (name : String)

@[simp] theorem name_required : (required α name).name = name := rfl

@[simp] theorem name_optional : (optional α name).name = name := rfl

@[simp] theorem name_defaulted [Wire α] (default : α) : (defaulted name default).name = name := rfl

@[simp] theorem varies_required : (required α name).varies = Form.Varies α := rfl

@[simp] theorem varies_optional : (optional α name).varies = Form.Varies (Option α) := rfl

@[simp] theorem varies_defaulted [Wire α] (default : α) :
    (defaulted name default).varies = Form.Varies α := rfl

end names
end FieldForm

/-- The members of a record, one for each of its fields in order, and another list of members that
says the same. `known` are the names of all its fields. -/
inductive MembersVary (known : List String) :
    List FieldForm → List (String × Json) → List (String × Json) → Prop
  | nil : MembersVary known [] [] []
  | keep {field : FieldForm} {fields : List FieldForm} {value value' : Json}
      {members members' : List (String × Json)} (h : field.varies value value')
      (rest : MembersVary known fields members members') :
    MembersVary known (field :: fields) ((field.name, value) :: members)
      ((field.name, value') :: members')
  | leaveOut {field : FieldForm} {fields : List FieldForm} {value : Json}
      {members members' : List (String × Json)} (h : field.spare = some value)
      (rest : MembersVary known fields members members') :
    MembersVary known (field :: fields) ((field.name, value) :: members) members'
  | add {fields : List FieldForm} {name : String} {value : Json}
      {members members' : List (String × Json)} (h : name ∉ known)
      (rest : MembersVary known fields members members') :
    MembersVary known fields members ((name, value) :: members')

structure RecordForm where
  fields : List FieldForm
  distinct : (fields.map (·.name)).Nodup := by simp

/-- Objects that have the fields of a record and say the same; the order of their members is
open. -/
inductive RecordVaries (form : RecordForm) : Json → Json → Prop
  | object {members members' members'' : List (String × Json)}
      (h : MembersVary (form.fields.map (·.name)) form.fields members members')
      (order : members'.Perm members'') :
    RecordVaries form (.object members) (.object members'')

/-- Reading gives the value back from its form and from all that say the same. -/
class Lenient (α : Type) [Wire α] [Form α] : Prop where
  varies_encode (value : α) : Form.Varies α (encode value) (encode value)
  decode?_of_varies {value : α} {j : Json} (h : Form.Varies α (encode value) j) :
    decode? j = some value

export Lenient (varies_encode decode?_of_varies)

attribute [simp] Lenient.varies_encode

theorem decode?_encode {α : Type} [Wire α] [Form α] [Lenient α] (value : α) :
    decode? (encode value) = some value :=
  decode?_of_varies (varies_encode value)

theorem encode_injective {α : Type} [Wire α] [Form α] [Lenient α] :
    Function.Injective (encode : α → Json) := fun value value' h =>
  Option.some.inj ((decode?_encode value).symm.trans (h ▸ decode?_encode value'))

/-! ### Scalars, lists and optional values -/

theorem natBelow?_toNat {bound n : Nat} (h : n < bound) :
    natBelow? bound (.natural n) = some n :=
  if_pos h

instance : Scalar Bool := ⟨fun _ => rfl⟩

instance : Scalar String := ⟨fun _ => rfl⟩

instance : Scalar UInt32 where
  decode?_encode n := by
    change (natBelow? UInt32.size (.natural n.toNat)).map UInt32.ofNat = some n
    rw [natBelow?_toNat n.toNat_lt_size, Option.map_some, UInt32.ofNat_toNat]

instance : Scalar UInt64 where
  decode?_encode n := by
    change (natBelow? UInt64.size (.natural n.toNat)).map UInt64.ofNat = some n
    rw [natBelow?_toNat n.toNat_lt_size, Option.map_some, UInt64.ofNat_toNat]

instance : Scalar Uuid where
  decode?_encode id := by
    change (some id.toText).bind Uuid.parse? = some id
    rw [Option.bind_some, Uuid.parse?_toText]

instance {kind : IdKind} : Scalar (Id kind) where
  decode?_encode id := by
    change (decode? (encode id.uuid)).map Id.mk = some id
    rw [Scalar.decode?_encode, Option.map_some]

instance {α : Type} [Wire α] [Scalar α] : Lenient α where
  varies_encode _ := rfl
  decode?_of_varies := by
    rintro value _ rfl
    exact Scalar.decode?_encode value

class NeverNull (α : Type) [Wire α] : Prop where
  decode?_null : (decode? .null : Option α) = none

instance : NeverNull Bool := ⟨rfl⟩

instance : NeverNull String := ⟨rfl⟩

instance : NeverNull UInt64 := ⟨rfl⟩

instance {kind : IdKind} : NeverNull (Id kind) := ⟨rfl⟩

instance {α : Type} [Wire α] : NeverNull (List α) := ⟨rfl⟩

@[simp] theorem varies_string (text : String) : Form.Varies String (.string text) (.string text) :=
  varies_encode text

section values

variable {α : Type} [Wire α]

theorem decode?_of_ne_null {j : Json} (h : j ≠ .null) :
    (decode? j : Option (Option α)) = (decode? j : Option α).map some := by
  cases j with
  | null => exact absurd rfl h
  | _ => rfl

theorem ne_null_of_decode? [NeverNull α] {value : α} {j : Json} (h : decode? j = some value) :
    j ≠ .null := by
  rintro rfl
  exact Option.some_ne_none value (h.symm.trans NeverNull.decode?_null)

variable [Form α] [Lenient α]

theorem mapM_decode? {values : List α} {items : List Json}
    (h : List.Forall₂ (Form.Varies α) (values.map encode) items) :
    items.mapM decode? = some values := by
  induction values generalizing items with
  | nil =>
    cases h
    rfl
  | cons value values ih =>
    obtain _ | ⟨hitem, hitems⟩ := h
    rw [List.mapM_cons, decode?_of_varies hitem, ih hitems]
    rfl

instance : Lenient (List α) where
  varies_encode values := .array <| by
    rw [List.forall₂_same]
    intro item hitem
    obtain ⟨value, -, rfl⟩ := List.mem_map.1 hitem
    exact varies_encode value
  decode?_of_varies := by
    rintro values _ ⟨h⟩
    exact mapM_decode? h

instance [NeverNull α] : Lenient (Option α) where
  varies_encode
    | none => .null
    | some value => .value (ne_null_of_decode? (decode?_encode value)) (varies_encode value)
  decode?_of_varies {value j} h := by
    cases value with
    | none =>
      rw [ValueVaries.eq_null h]
      rfl
    | some value =>
      have hnull : encode value ≠ .null := ne_null_of_decode? (decode?_encode value)
      have hread := decode?_of_varies (ValueVaries.of_ne_null h hnull)
      rw [decode?_of_ne_null (ne_null_of_decode? hread), hread, Option.map_some]

end values

/-! ### Members found again -/

def FieldForm.FoundIn (field : FieldForm) (members : List (String × Json)) (value : Json) : Prop :=
  (∃ value', field.varies value value' ∧
    members.filter (·.1 == field.name) = [(field.name, value')]) ∨
  (field.spare = some value ∧ members.filter (·.1 == field.name) = [])

section members

variable {known : List String} {fields : List FieldForm} {members members' : List (String × Json)}

theorem MembersVary.filter_eq_nil (h : MembersVary known fields members members') {name : String}
    (hknown : name ∈ known) (hother : name ∉ fields.map (·.name)) :
    members'.filter (·.1 == name) = [] := by
  induction h with
  | nil => rfl
  | keep h rest ih =>
    rw [List.map_cons, List.mem_cons, not_or] at hother
    rw [List.filter_cons_of_neg (by simpa using Ne.symm hother.1), ih hother.2]
  | leaveOut h rest ih =>
    rw [List.map_cons, List.mem_cons, not_or] at hother
    exact ih hother.2
  | add h rest ih =>
    have hne := ne_of_mem_of_not_mem hknown h
    rw [List.filter_cons_of_neg (by simpa using hne.symm), ih hother]

theorem FieldForm.FoundIn.cons {field : FieldForm} {value : Json} {name : String} {other : Json}
    (h : field.FoundIn members value) (hne : field.name ≠ name) :
    field.FoundIn ((name, other) :: members) value := by
  rw [FieldForm.FoundIn, List.filter_cons_of_neg (by simpa using hne.symm)]
  exact h

theorem FieldForm.FoundIn.of_perm {field : FieldForm} {value : Json}
    (h : field.FoundIn members value) (hperm : members.Perm members') :
    field.FoundIn members' value := by
  have hfilter := hperm.filter (·.1 == field.name)
  rcases h with ⟨value', hvalue, honce⟩ | ⟨hspare, hnone⟩
  · rw [honce] at hfilter
    exact .inl ⟨value', hvalue, hfilter.singleton_eq.symm⟩
  · rw [hnone] at hfilter
    exact .inr ⟨hspare, hfilter.nil_eq.symm⟩

theorem MembersVary.found (h : MembersVary known fields members members')
    (hknown : fields.map (·.name) ⊆ known) (hdistinct : (fields.map (·.name)).Nodup) :
    List.Forall₂ (fun field member => field ∈ fields ∧ field.FoundIn members' member.2)
      fields members := by
  -- That a field is still to come is carried along: what stands before it then has another name.
  induction h with
  | nil => exact .nil
  | @keep field fields value value' members members' h rest ih =>
    obtain ⟨hname, hnames⟩ := List.cons_subset.1 hknown
    obtain ⟨hother, hothers⟩ := List.nodup_cons.1 hdistinct
    refine .cons ⟨List.mem_cons_self, .inl ⟨value', h, ?_⟩⟩ ((ih hnames hothers).imp ?_)
    · rw [List.filter_cons_of_pos (by simp), rest.filter_eq_nil hname hother]
    · rintro other member ⟨hmem, hfound⟩
      refine ⟨List.mem_cons_of_mem _ hmem, hfound.cons ?_⟩
      exact ne_of_mem_of_not_mem (List.mem_map_of_mem hmem) hother
  | leaveOut h rest ih =>
    obtain ⟨hname, hnames⟩ := List.cons_subset.1 hknown
    obtain ⟨hother, hothers⟩ := List.nodup_cons.1 hdistinct
    refine .cons ⟨List.mem_cons_self, .inr ⟨h, rest.filter_eq_nil hname hother⟩⟩ ?_
    exact (ih hnames hothers).imp fun other member hfound =>
      ⟨List.mem_cons_of_mem _ hfound.1, hfound.2⟩
  | add h rest ih =>
    refine (ih hknown hdistinct).imp fun field member hfound => ⟨hfound.1, hfound.2.cons ?_⟩
    exact ne_of_mem_of_not_mem (hknown (List.mem_map_of_mem hfound.1)) h

def FoundAll (members : List (String × Json)) : List FieldForm → List (String × Json) → Prop
  | [], [] => True
  | field :: fields, (_, value) :: originals =>
    field.FoundIn members value ∧ FoundAll members fields originals
  | _, _ => False

theorem foundAll_of_forall₂ {originals : List (String × Json)}
    (h : List.Forall₂ (fun field member => field.FoundIn members member.2) fields originals) :
    FoundAll members fields originals := by
  induction h with
  | nil => trivial
  | cons h _ ih => exact ⟨h, ih⟩

theorem RecordVaries.found {form : RecordForm} {j : Json}
    (h : RecordVaries form (.object members) j) :
    ∃ members', j = .object members' ∧
      FoundAll members' form.fields members := by
  obtain ⟨hvary, hperm⟩ := h
  refine ⟨_, rfl, foundAll_of_forall₂ ?_⟩
  exact (hvary.found (List.Subset.refl _) form.distinct).imp
    fun _ _ hfound => hfound.2.of_perm hperm

end members

theorem MembersVary.self {known : List String} {fields : List FieldForm}
    {members : List (String × Json)}
    (h : List.Forall₂ (fun field member => member.1 = field.name ∧ field.varies member.2 member.2)
      fields members) : MembersVary known fields members members := by
  induction h with
  | nil => exact .nil
  | @cons field member fields members h _ ih =>
    obtain ⟨name, value⟩ := member
    obtain ⟨rfl, hvaries⟩ := h
    exact .keep hvaries ih

theorem RecordVaries.self {form : RecordForm} {members : List (String × Json)}
    (h : List.Forall₂ (fun field member => member.1 = field.name ∧ field.varies member.2 member.2)
      form.fields members) : RecordVaries form (.object members) (.object members) :=
  .object (.self h) (.refl members)

/-! ### Reading the members -/

/-- A reader gets a value from the members of an object; none of them is used up. -/
def Reads {α : Type} (reader : FieldReader α) (members : List (String × Json)) (value : α) : Prop :=
  reader (.named members) = some (value, .named members)

section readers

variable {α β : Type} {members : List (String × Json)} {name : String}

theorem reads_pure (value : α) : Reads (pure value) members value :=
  rfl

theorem Reads.bind {reader : FieldReader α} {next : α → FieldReader β} {value : α} {result : β}
    (h : Reads reader members value) (hnext : Reads (next value) members result) :
    Reads (reader >>= next) members result := by
  change (reader (.named members)).bind (fun p => next p.1 p.2) = _
  rw [h]
  exact hnext

theorem Reads.map {reader : FieldReader α} {value : α} (f : α → β)
    (h : Reads reader members value) : Reads (f <$> reader) members (f value) := by
  rw [map_eq_pure_bind]
  exact h.bind (reads_pure _)

theorem ofRecord?_of_reads {reader : FieldReader α} {value : α} (h : Reads reader members value) :
    ofRecord? reader (.object members) = some value := by
  change (reader (.named members)).map Prod.fst = some value
  rw [h, Option.map_some]

theorem reads_next_of_once {value : Json} (h : members.filter (·.1 == name) = [(name, value)]) :
    Reads (next name) members (some value) := by
  rw [Reads, next, h]

theorem reads_next_of_none (h : members.filter (·.1 == name) = []) :
    Reads (next name) members none := by
  rw [Reads, next, h]

theorem reads_get (members : List (String × Json)) :
    Reads (get : FieldReader Record) members (.named members) :=
  rfl

theorem reads_of_eq_some {answer : Option α} {value : α} (h : answer = some value) :
    Reads (monadLift answer) members value := by
  rw [h]
  rfl

variable [Wire α] [Form α] [Lenient α]

theorem FieldForm.FoundIn.required {value : α}
    (h : (FieldForm.required α name).FoundIn members (encode value)) :
    Reads (FieldReader.required name) members value := by
  obtain ⟨value', hvaries, honce⟩ | ⟨hspare, -⟩ := h
  · exact (reads_next_of_once honce).bind (reads_of_eq_some (decode?_of_varies hvaries))
  · cases hspare

theorem FieldForm.FoundIn.optional [NeverNull α] {value : Option α}
    (h : (FieldForm.optional α name).FoundIn members (encode value)) :
    Reads (FieldReader.optional name) members value := by
  obtain ⟨value', hvaries, honce⟩ | ⟨hspare, hnone⟩ := h
  · exact (reads_next_of_once honce).bind
      ((reads_get members).bind (reads_of_eq_some (decode?_of_varies hvaries)))
  · obtain rfl : none = value := encode_injective (Option.some.inj hspare)
    exact (reads_next_of_none hnone).bind ((reads_get members).bind (reads_pure none))

theorem FieldForm.FoundIn.defaulted {value default : α}
    (h : (FieldForm.defaulted name default).FoundIn members (encode value)) :
    Reads (FieldReader.defaulted name default) members value := by
  obtain ⟨value', hvaries, honce⟩ | ⟨hspare, hnone⟩ := h
  · exact (reads_next_of_once honce).bind (reads_of_eq_some (decode?_of_varies hvaries))
  · obtain rfl : default = value := encode_injective (Option.some.inj hspare)
    exact (reads_next_of_none hnone).bind (reads_pure default)

end readers

theorem FieldForm.FoundIn.variant {α : Type} {members : List (String × Json)} {name : String}
    {alternative : String} {ofName? : String → Option α} {value : α}
    (h : (FieldForm.required String name).FoundIn members (.string alternative))
    (hname : ofName? alternative = some value) :
    Reads (FieldReader.variant name ofName?) members value := by
  obtain ⟨value', hvaries, honce⟩ | ⟨hspare, -⟩ := h
  · obtain rfl : Json.string alternative = value' := hvaries
    exact (reads_next_of_once honce).bind (reads_of_eq_some hname)
  · cases hspare

end CrossConnect.Wire
