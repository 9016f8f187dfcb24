/-!
Tables from keys to values. A table lists its entries in the order in which their keys first came;
no key occurs twice.
-/
namespace CrossConnect

structure Table (κ α : Type) where
  entries : List (κ × α)
  nodup : (entries.map Prod.fst).Nodup

namespace Table

variable {κ α : Type}

def empty : Table κ α :=
  { entries := [], nodup := by simp }

instance : Inhabited (Table κ α) := ⟨empty⟩

theorem ext {t u : Table κ α} (h : t.entries = u.entries) : t = u := by
  cases t; cases u; cases h; rfl

def values (t : Table κ α) : List α :=
  t.entries.map Prod.snd

variable [DecidableEq κ]

instance [DecidableEq α] : DecidableEq (Table κ α) := fun t u =>
  if h : t.entries = u.entries then isTrue (ext h) else isFalse fun e => h (e ▸ rfl)

def find? (t : Table κ α) (key : κ) : Option α :=
  (t.entries.find? fun entry => entry.1 = key).map Prod.snd

def contains (t : Table κ α) (key : κ) : Bool :=
  (t.find? key).isSome

def mapEntries (f : κ → α → α) (t : Table κ α) : Table κ α :=
  { entries := t.entries.map fun entry => (entry.1, f entry.1 entry.2)
    nodup := by simpa [List.map_map, Function.comp_def] using t.nodup }

def filter (keep : κ → α → Bool) (t : Table κ α) : Table κ α :=
  { entries := t.entries.filter fun entry => keep entry.1 entry.2
    nodup := t.nodup.sublist ((List.filter_sublist ..).map _) }

theorem find?_eq_none_iff {t : Table κ α} {key : κ} :
    t.find? key = none ↔ key ∉ t.entries.map Prod.fst := by
  simp only [find?, Option.map_eq_none_iff, List.find?_eq_none, decide_eq_true_eq, List.mem_map,
    not_exists, not_and]

theorem find?_eq_some_iff {t : Table κ α} {key : κ} {value : α} :
    t.find? key = some value ↔ (key, value) ∈ t.entries := by
  obtain ⟨entries, nodup⟩ := t
  simp only [find?]
  induction entries with
  | nil => simp
  | cons entry rest ih =>
    simp only [List.map_cons, List.nodup_cons] at nodup
    by_cases h : entry.1 = key
    · subst h
      have hrest : (entry.1, value) ∉ rest := fun hm => nodup.1 (List.mem_map.2 ⟨_, hm, rfl⟩)
      simp only [List.find?_cons, decide_true, Option.map_some, Option.some.injEq, List.mem_cons,
        Prod.ext_iff, true_and, hrest, or_false]
      exact eq_comm
    · have hne : (key, value) ≠ entry := fun he => h (he ▸ rfl)
      simp [h, hne, ih nodup.2]

@[simp] theorem find?_empty (key : κ) : (empty : Table κ α).find? key = none :=
  rfl

@[simp] theorem find?_mapEntries (f : κ → α → α) (t : Table κ α) (key : κ) :
    (t.mapEntries f).find? key = (t.find? key).map (f key) := by
  cases h : t.find? key with
  | none =>
    rw [find?_eq_none_iff] at h
    simpa [find?_eq_none_iff, mapEntries] using h
  | some value =>
    rw [find?_eq_some_iff] at h
    simp only [Option.map_some, find?_eq_some_iff, mapEntries]
    exact List.mem_map_of_mem (f := fun entry => (entry.1, f entry.1 entry.2)) h

@[simp] theorem find?_filter (keep : κ → α → Bool) (t : Table κ α) (key : κ) :
    (t.filter keep).find? key = (t.find? key).filter (keep key) := by
  ext value
  simp only [find?_eq_some_iff, filter, List.mem_filter, Option.filter_eq_some_iff]

def insert (t : Table κ α) (key : κ) (value : α) : Table κ α :=
  if h : t.find? key = none then
    { entries := t.entries ++ [(key, value)]
      nodup := by
        rw [List.map_append, List.nodup_append]
        refine ⟨t.nodup, by simp, ?_⟩
        rintro a ha b hb rfl
        simp only [List.map_cons, List.map_nil, List.mem_singleton] at hb
        exact find?_eq_none_iff.1 h (hb ▸ ha) }
  else t.mapEntries fun k v => if k = key then value else v

theorem find?_insert (t : Table κ α) (key : κ) (value : α) (other : κ) :
    (t.insert key value).find? other = if other = key then some value else t.find? other := by
  unfold insert
  split
  next h =>
    rw [find?, List.find?_append]
    by_cases ho : other = key
    · subst ho
      rw [find?, Option.map_eq_none_iff] at h
      simp [h]
    · simp [find?, ho, Ne.symm ho]
  next h =>
    rw [find?_mapEntries]
    by_cases ho : other = key
    · subst ho
      obtain ⟨old, hold⟩ := Option.ne_none_iff_exists'.1 h
      simp [hold]
    · simp [ho]

def erase (t : Table κ α) (key : κ) : Table κ α :=
  t.filter fun k _ => k ≠ key

def modify (t : Table κ α) (key : κ) (f : α → α) : Table κ α :=
  t.mapEntries fun k v => if k = key then f v else v

theorem find?_erase (t : Table κ α) (key other : κ) :
    (t.erase key).find? other = if other = key then none else t.find? other := by
  rw [erase, find?_filter]
  by_cases h : other = key
  · simp [h]
  · cases t.find? other <;> simp [h]

theorem find?_modify (t : Table κ α) (key : κ) (f : α → α) (other : κ) :
    (t.modify key f).find? other =
      if other = key then (t.find? other).map f else t.find? other := by
  by_cases h : other = key <;> simp [modify, h]

end Table
end CrossConnect
