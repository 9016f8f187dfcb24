import CrossConnect.Proofs.Server

/-!
The order in which tables list their entries. A registry looks entries up by their keys, and where
it goes through a whole table it sorts what it finds, or looks for the one merge group that has a
port. So the order shows in its listings alone, and there only between entries that the sorting
leaves as they are.
-/
namespace CrossConnect

/-! ### Sorted lists -/

section sorted

variable {α β : Type} {key : α → β} {xs ys : List α}

/-- Entries with the same key are the same. -/
def NoTies (key : α → β) (xs : List α) : Prop :=
  ∀ a ∈ xs, ∀ b ∈ xs, key a = key b → a = b

instance [DecidableEq α] [DecidableEq β] : Decidable (NoTies key xs) :=
  inferInstanceAs (Decidable (∀ a ∈ xs, ∀ b ∈ xs, key a = key b → a = b))

theorem NoTies.of_subset (h : NoTies key ys) (hsubset : xs ⊆ ys) : NoTies key xs :=
  fun a ha b hb => h a (hsubset ha) b (hsubset hb)

variable [LE β]

structure Listings (key : α → β) (xs ys : List α) : Prop where
  perm : xs.Perm ys
  ascending : xs.Pairwise (key · ≤ key ·)
  ascending' : ys.Pairwise (key · ≤ key ·)

namespace Listings

theorem filter (h : Listings key xs ys) (keep : α → Bool) :
    Listings key (xs.filter keep) (ys.filter keep) :=
  ⟨h.perm.filter keep, h.ascending.filter keep, h.ascending'.filter keep⟩

variable [Std.Antisymm (α := β) (· ≤ ·)]

theorem eq_of_noTies (h : Listings key xs ys) (hties : NoTies key xs) : xs = ys :=
  h.perm.eq_of_pairwise
    (fun a b ha hb hab hba => hties a ha b (h.perm.mem_iff.2 hb)
      (Std.Antisymm.antisymm _ _ hab hba))
    h.ascending h.ascending'

theorem find?_eq (h : Listings key xs ys) {p : α → Bool} (hties : NoTies key (xs.filter p)) :
    xs.find? p = ys.find? p := by
  rw [← List.head?_filter, ← List.head?_filter, (h.filter p).eq_of_noTies hties]

end Listings

end sorted

/-! ### Tables -/

namespace Table

variable {κ α : Type}

def Relisted (t u : Table κ α) : Prop :=
  t.entries.Perm u.entries

def reversed (t : Table κ α) : Table κ α :=
  { entries := t.entries.reverse
    nodup := by rw [List.map_reverse]; exact List.nodup_reverse.2 t.nodup }

theorem relisted_reversed (t : Table κ α) : t.Relisted t.reversed :=
  (List.reverse_perm _).symm

variable {t u : Table κ α} (h : t.Relisted u)

include h

theorem Relisted.values : t.values.Perm u.values :=
  h.map _

theorem Relisted.mapEntries (f : κ → α → α) : (t.mapEntries f).Relisted (u.mapEntries f) :=
  h.map _

theorem Relisted.filter (keep : κ → α → Bool) : (t.filter keep).Relisted (u.filter keep) :=
  List.Perm.filter _ h

variable [DecidableEq κ]

theorem Relisted.find? (key : κ) : u.find? key = t.find? key := by
  ext value
  rw [find?_eq_some_iff, find?_eq_some_iff]
  exact h.symm.mem_iff

theorem Relisted.insert (key : κ) (value : α) :
    (t.insert key value).Relisted (u.insert key value) := by
  by_cases hnew : t.find? key = none
  · simp only [Table.insert, dif_pos hnew, dif_pos ((h.find? key).trans hnew)]
    exact h.append_right _
  · have hnew' : u.find? key ≠ none := (h.find? key).symm ▸ hnew
    simp only [Table.insert, dif_neg hnew, dif_neg hnew']
    exact h.mapEntries _

theorem Relisted.modify (key : κ) (f : α → α) : (t.modify key f).Relisted (u.modify key f) :=
  h.mapEntries _

theorem Relisted.erase (key : κ) : (t.erase key).Relisted (u.erase key) :=
  h.filter _

end Table

/-! ### Registries -/

namespace Registry

variable {r r' : Registry} {id : StructureId} {side : Side} {spot : PortSide}
  {ports : List PortNumber} {key : MergeGroupId} {limits : Limits}

theorem pairwise_structuresBySlot (r : Registry) :
    r.structuresBySlot.Pairwise (·.slotStart ≤ ·.slotStart) :=
  pairwise_sortBy_number Structure.slotStart r.structures.values

theorem pairwise_cablesByName (r : Registry) : r.cablesByName.Pairwise (·.name ≤ ·.name) :=
  (pairwise_sortBy (fun c d => by simpa using String.le_total c.name d.name)
    (fun c d e => by simpa using String.le_trans) r.cables.values).imp of_decide_eq_true

/-- The second registry differs from the first at most in the order of its structures, cables and
merge groups. -/
structure Relisted (r r' : Registry) : Prop where
  componentTypes : r'.componentTypes = r.componentTypes
  structures : r.structures.Relisted r'.structures
  cables : r.cables.Relisted r'.cables
  rows : r'.rows = r.rows
  groups : r.groups.Relisted r'.groups
  ids : r'.ids = r.ids

def Apart (r : Registry) : Prop :=
  ∀ ⦃key key' group group' id spot⦄, r.groups.find? key = some group →
    r.groups.find? key' = some group' → group.Covers id spot → group'.Covers id spot → key = key'

namespace Relisted

theorem refl (r : Registry) : r.Relisted r :=
  ⟨rfl, .refl _, .refl _, rfl, .refl _, rfl⟩

theorem symm (h : r.Relisted r') : r'.Relisted r :=
  ⟨h.componentTypes.symm, h.structures.symm, h.cables.symm, h.rows.symm, h.groups.symm, h.ids.symm⟩

theorem trans {r'' : Registry} (h : r.Relisted r') (h' : r'.Relisted r'') : r.Relisted r'' :=
  ⟨h'.componentTypes.trans h.componentTypes, h.structures.trans h'.structures,
    h.cables.trans h'.cables, h'.rows.trans h.rows, h.groups.trans h'.groups, h'.ids.trans h.ids⟩

variable (h : r.Relisted r')

include h

theorem structure? : r'.structure? = r.structure? := by
  funext id
  simp only [Registry.structure?, h.structures.find?]

theorem cable? : r'.cable? = r.cable? := by
  funext id
  simp only [Registry.cable?, h.cables.find?]

theorem componentType? : r'.componentType? = r.componentType? := by
  funext id
  simp only [Registry.componentType?, h.componentTypes]

theorem group? : r'.group? = r.group? := by
  funext key
  simp only [Registry.group?, h.groups.find?]

theorem requirePort : r'.requirePort = r.requirePort := by
  funext id spot
  simp only [Registry.requirePort, h.structure?, h.componentType?]

theorem terminate : r'.terminate = r.terminate := by
  funext fiber
  simp only [Registry.terminate, h.cable?]

theorem listing : r'.listing = r.listing := by
  funext id
  simp only [Registry.listing, h.rows]

theorem firstFiber : r'.firstFiber = r.firstFiber := by
  funext id side ports
  simp only [Registry.firstFiber, h.rows]

theorem groupAt (hapart : r.Apart) : r'.groupAt = r.groupAt := by
  funext id spot
  cases hat : r.groupAt id spot with
  | none =>
    refine Option.eq_none_iff_forall_ne_some.2 fun group hgroup => ?_
    obtain ⟨key, hkey, hcovers⟩ := groupAt_eq_some hgroup
    exact groupAt_eq_none hat (h.groups.find? key ▸ hkey) hcovers
  | some group =>
    obtain ⟨key, hkey, hcovers⟩ := groupAt_eq_some hat
    cases hat' : r'.groupAt id spot with
    | none => exact absurd hcovers (groupAt_eq_none hat' ((h.groups.find? key).trans hkey))
    | some group' =>
      obtain ⟨key', hkey', hcovers'⟩ := groupAt_eq_some hat'
      rw [h.groups.find?] at hkey'
      obtain rfl := hapart hkey hkey' hcovers hcovers'
      exact hkey'.symm.trans hkey

theorem structuresBySlot : Listings Structure.slotStart r.structuresBySlot r'.structuresBySlot where
  perm := (sortBy_perm _ _).trans (h.structures.values.trans (sortBy_perm _ _).symm)
  ascending := r.pairwise_structuresBySlot
  ascending' := r'.pairwise_structuresBySlot

theorem cablesByName : Listings Cable.name r.cablesByName r'.cablesByName where
  perm := (sortBy_perm _ _).trans (h.cables.values.trans (sortBy_perm _ _).symm)
  ascending := r.pairwise_cablesByName
  ascending' := r'.pairwise_cablesByName

theorem fanOut (hapart : r.Apart) : r'.fanOut = r.fanOut := by
  funext id spot
  simp only [Registry.fanOut, h.groupAt hapart]

theorem requireUngrouped (hapart : r.Apart) (id : StructureId) (side : Side)
    (ports : List PortNumber) :
    r'.requireUngrouped id side ports = r.requireUngrouped id side ports := by
  induction ports with
  | nil => rfl
  | cons port ports ih =>
    simp only [Registry.requireUngrouped, h.requirePort, h.groupAt hapart, ih]

/-! ### Writes -/

theorem openRow (id : StructureId) (port : PortNumber) :
    (r'.openRow id port).1 = (r.openRow id port).1 ∧
      (r.openRow id port).2.Relisted (r'.openRow id port).2 := by
  simp only [Registry.openRow, h.rows, h.ids]
  cases r.rows.find? (id, port) with
  | some row => exact ⟨rfl, h⟩
  | none => exact ⟨rfl, h.componentTypes, h.structures, h.cables, rfl, h.groups, rfl⟩

theorem writeEndpoint (id : StructureId) (side : Side) (f : Endpoint → Endpoint)
    (port : PortNumber) :
    (r.writeEndpoint id side f port).Relisted (r'.writeEndpoint id side f port) := by
  obtain ⟨hrow, hopened⟩ := h.openRow id port
  simp only [Registry.writeEndpoint]
  exact ⟨hopened.componentTypes, hopened.structures, hopened.cables, by rw [hrow, hopened.rows],
    hopened.groups, hopened.ids⟩

theorem writeEndpoints (id : StructureId) (side : Side) (f : PortNumber → Endpoint → Endpoint)
    (ports : List PortNumber) :
    (r.writeEndpoints id side f ports).Relisted (r'.writeEndpoints id side f ports) := by
  induction ports generalizing r r' with
  | nil => exact h
  | cons port ports ih => exact ih (h.writeEndpoint id side (f port) port)

theorem prune (id : StructureId) : (r.prune id).Relisted (r'.prune id) :=
  ⟨h.componentTypes, h.structures, h.cables, by simp only [Registry.prune, h.rows], h.groups, h.ids⟩

end Relisted

def reversed (r : Registry) : Registry :=
  { r with
    structures := r.structures.reversed
    cables := r.cables.reversed
    groups := r.groups.reversed }

theorem relisted_reversed (r : Registry) : r.Relisted r.reversed :=
  ⟨rfl, r.structures.relisted_reversed, r.cables.relisted_reversed, rfl,
    r.groups.relisted_reversed, rfl⟩

/-! ### Operations -/

/-- Two answers are the same, and leave registries that differ at most in their order. -/
inductive SameAnswer {α : Type} :
    Except Failure (α × Registry) → Except Failure (α × Registry) → Prop
  | refused (e : Failure) : SameAnswer (.error e) (.error e)
  | accepted {a b : α × Registry} (value : b.1 = a.1) (relisted : a.2.Relisted b.2) :
      SameAnswer (.ok a) (.ok b)

theorem SameAnswer.bind {α β : Type} {f f' : β → Except Failure (α × Registry)}
    (x : Except Failure β) (h : ∀ b, x = .ok b → SameAnswer (f b) (f' b)) :
    SameAnswer (x >>= f) (x >>= f') := by
  cases x with
  | error e => exact .refused e
  | ok b => exact h b rfl

namespace Relisted

variable (h : r.Relisted r') (hapart : r.Apart)

include h hapart

theorem place (p : Placement) : SameAnswer (r.place p) (r'.place p) := by
  simp only [Registry.place, h.requirePort, h.terminate, h.fanOut hapart]
  refine .bind _ fun _ _ => .bind _ fun fiber _ => ?_
  obtain ⟨hrow, hopened⟩ := (h.writeEndpoints p.structureId p.spot.side
    (fun _ e => { e with fiber := some fiber }) (r.fanOut p.structureId p.spot)).openRow
    p.structureId p.spot.port
  exact .accepted hrow hopened

theorem clear (id : StructureId) (spot : PortSide) :
    SameAnswer (r.clear id spot) (r'.clear id spot) := by
  simp only [Registry.clear, h.structure?, h.groupAt hapart, h.fanOut hapart, h.rows]
  refine .bind _ fun _ _ => .accepted rfl (prune ?_ id)
  refine ⟨h.componentTypes, h.structures, h.cables, rfl, ?_, h.ids⟩
  cases r.groupAt id spot with
  | none => exact h.groups
  | some group => exact h.groups.modify _ _

theorem merge (limits : Limits) (id : StructureId) (ports : List PortNumber) (side : Side) :
    SameAnswer (r.merge limits id ports side) (r'.merge limits id ports side) := by
  simp only [Registry.merge, h.requireUngrouped hapart, h.firstFiber, h.ids]
  refine .bind _ fun sorted _ => .bind _ fun _ _ => ?_
  refine .accepted rfl (writeEndpoints ?_ _ _ _ _)
  exact ⟨h.componentTypes, h.structures, h.cables, h.rows, h.groups.insert _ _, rfl⟩

omit hapart

theorem unmerge (key : MergeGroupId) (ports : List PortNumber) :
    SameAnswer (((), ·) <$> r.unmerge key ports) (((), ·) <$> r'.unmerge key ports) := by
  simp only [Registry.unmerge, h.group?, map_bind]
  refine .bind _ fun group _ => ?_
  by_cases hports : sortNumbers ports ≠ group.ports
  · simp only [if_pos hports]
    exact .refused _
  · simp only [if_neg hports]
    have hwritten := h.writeEndpoints group.structureId group.side group.keepFirst group.ports
    refine .accepted rfl (prune ?_ _)
    exact ⟨hwritten.componentTypes, hwritten.structures, hwritten.cables, hwritten.rows,
      hwritten.groups.erase key, hwritten.ids⟩

theorem upload (limits : Limits) (key : MergeGroupId) (side : Side) (fibers : List FiberRef) :
    SameAnswer (((), ·) <$> r.upload limits key side fibers)
      (((), ·) <$> r'.upload limits key side fibers) := by
  simp only [Registry.upload, h.group?, h.terminate, map_bind]
  refine .bind _ fun group _ => ?_
  by_cases hside : group.side ≠ side
  · simp only [if_pos hside]
    exact .refused _
  simp only [if_neg hside]
  by_cases hempty : fibers.isEmpty = true
  · simp only [if_pos hempty]
    exact .refused _
  simp only [if_neg hempty]
  by_cases hmany : group.ports.length < fibers.length ∨ limits.uploadSize < fibers.length
  · simp only [if_pos hmany]
    exact .refused _
  simp only [if_neg hmany, map_bind]
  refine .bind _ fun shown _ => ?_
  have hwritten := h.writeEndpoints group.structureId side
    (fun _ e => { e with fiber := shown.head? }) group.ports
  refine .accepted rfl ?_
  exact ⟨hwritten.componentTypes, hwritten.structures, hwritten.cables, hwritten.rows,
    hwritten.groups.modify _ _, hwritten.ids⟩

include hapart

theorem perform (limits : Limits) (call : Call) :
    SameAnswer (r.perform limits call) (r'.perform limits call) := by
  cases call with
  | portsOf id =>
    simp only [Registry.perform, Registry.portsOf, h.componentType?]
    cases r.componentType? id with
    | error e => exact .refused e
    | ok record => exact .accepted rfl h
  | rowsOf id =>
    simp only [Registry.perform, Registry.rowsOf, h.structure?, h.listing]
    cases r.structure? id with
    | error e => exact .refused e
    | ok record => exact .accepted rfl h
  | fibersOf id =>
    simp only [Registry.perform, Registry.fibersOf, h.cable?]
    cases r.cable? id with
    | error e => exact .refused e
    | ok cable => exact .accepted rfl h
  | place p => exact h.place hapart p
  | clear id spot => exact h.clear hapart id spot
  | merge id ports side =>
    have hmerge := h.merge hapart limits id ports side
    simp only [Registry.perform]
    generalize r.merge limits id ports side = answer,
      r'.merge limits id ports side = answer' at hmerge
    cases hmerge with
    | refused e => exact .refused e
    | accepted value relisted => exact .accepted rfl relisted
  | unmerge key ports => exact h.unmerge key ports
  | upload key side fibers => exact h.upload limits key side fibers

end Relisted

/-! ### Groups stay apart -/

namespace Apart

theorem of_empty (hgroups : r.groups = .empty) : r.Apart := by
  intro key key' group group' id spot hkey
  rw [hgroups] at hkey
  cases hkey

variable (h : r.Apart)

include h

theorem relisted (hrelisted : r.Relisted r') : r'.Apart := by
  intro key key' group group' id spot hkey hkey'
  rw [hrelisted.groups.find?] at hkey hkey'
  exact h hkey hkey'

theorem of_sameGroups (hsame : SameGroups r r') : r'.Apart := by
  intro key key' group group' id spot hkey hkey' hcovers hcovers'
  obtain ⟨old, hold, hshape⟩ := hsame.back hkey
  obtain ⟨old', hold', hshape'⟩ := hsame.back hkey'
  exact h hold hold' (hshape.covers_iff.1 hcovers) (hshape'.covers_iff.1 hcovers')

theorem place {p : Placement} {row : Splice} (hplace : r.place p = .ok (row, r')) : r'.Apart := by
  obtain ⟨-, fiber, -, heq⟩ := place_eq_ok hplace
  refine h.of_sameGroups (.of_eq ?_)
  have hopened := groups_openRow
    (r.writeEndpoints p.structureId p.spot.side (fun _ e => { e with fiber := some fiber })
      (r.fanOut p.structureId p.spot)) p.structureId p.spot.port
  rwa [← heq, groups_writeEndpoints] at hopened

theorem clear {outcome : ClearOutcome} (hclear : r.clear id spot = .ok (outcome, r')) :
    r'.Apart := by
  obtain ⟨-, rfl⟩ := clear_eq_ok hclear
  cases hat : r.groupAt id spot with
  | none => exact h.of_sameGroups (.of_eq (by simp [Registry.prune, withoutUpload, hat]))
  | some group =>
    have hgroups :
        r.withoutUpload id spot = r.groups.modify group.id ({ · with fibers := [] }) := by
      simp only [withoutUpload, hat]
    exact h.of_sameGroups (.of_modify hgroups)

theorem merge (hmerge : r.merge limits id ports side = .ok (key, r')) : r'.Apart := by
  obtain ⟨sorted, -, hungrouped, -, rfl⟩ := merge_eq_ok hmerge
  -- The new group may even take the place of another; its ports were in none.
  have hnew : ∀ {old group other spot}, r.groups.find? old = some group →
      group.Covers other spot → ¬(id = other ∧ side = spot.side ∧ spot.port ∈ sorted) := by
    rintro old group other ⟨port, _⟩ hold hcovers ⟨rfl, rfl, hport⟩
    exact groupAt_eq_none (requireUngrouped_eq_ok hungrouped hport).2 hold hcovers
  intro k k' group group' other spot hk hk' hcovers hcovers'
  rw [groups_writeEndpoints, Table.find?_insert] at hk hk'
  split at hk
  next heq =>
    split at hk'
    next heq' => exact heq.trans heq'.symm
    next =>
      obtain rfl := Option.some.inj hk
      exact absurd hcovers (hnew hk' hcovers')
  next =>
    split at hk'
    next =>
      obtain rfl := Option.some.inj hk'
      exact absurd hcovers' (hnew hk hcovers)
    next => exact h hk hk' hcovers hcovers'

theorem unmerge (hunmerge : r.unmerge key ports = .ok r') : r'.Apart := by
  obtain ⟨gone, -, -, rfl⟩ := unmerge_eq_ok hunmerge
  have hback : ∀ {k group}, (r.groups.erase key).find? k = some group →
      r.groups.find? k = some group := by
    intro k group hk
    rw [Table.find?_erase] at hk
    split at hk
    · cases hk
    · exact hk
  intro k k' group group' other spot hk hk'
  exact h (hback hk) (hback hk')

theorem upload {fibers : List FiberRef} (hupload : r.upload limits key side fibers = .ok r') :
    r'.Apart := by
  obtain ⟨group, -, -, -, -, -, shown, -, rfl⟩ := upload_eq_ok hupload
  exact h.of_sameGroups (.of_modify rfl)

theorem perform {call : Call} {a : call.Answer} (hperform : r.perform limits call = .ok (a, r')) :
    r'.Apart := by
  cases call with
  | portsOf _ | rowsOf _ | fibersOf _ =>
    rw [perform_read rfl hperform]
    exact h
  | place p => exact h.place hperform
  | clear id spot => exact h.clear hperform
  | merge id ports side =>
    obtain ⟨⟨key, _⟩, hmerge, heq⟩ := map_eq_ok.1 hperform
    obtain rfl := (Prod.mk.inj heq).2
    exact h.merge hmerge
  | unmerge key ports =>
    obtain ⟨_, hunmerge, heq⟩ := map_eq_ok.1 hperform
    obtain rfl := (Prod.mk.inj heq).2
    exact h.unmerge hunmerge
  | upload key side fibers =>
    obtain ⟨_, hupload, heq⟩ := map_eq_ok.1 hperform
    obtain rfl := (Prod.mk.inj heq).2
    exact h.upload hupload

end Apart

end Registry
end CrossConnect
