/-!
Stable sorting by insertion, and ascending lists without repetition.
-/
namespace CrossConnect

/-! ### Stable sorting -/

section sortBy

variable {α : Type} (le : α → α → Bool)

def insertBy (a : α) : List α → List α
  | [] => [a]
  | b :: bs => if le a b then a :: b :: bs else b :: insertBy a bs

/-- Stable sort: elements that `le` relates both ways keep their order. -/
def sortBy (as : List α) : List α :=
  as.foldr (insertBy le) []

theorem insertBy_perm (a : α) (bs : List α) : (insertBy le a bs).Perm (a :: bs) := by
  induction bs with
  | nil => exact .refl _
  | cons b bs ih =>
    unfold insertBy
    split
    · exact .refl _
    · exact (ih.cons b).trans (.swap a b bs)

theorem sortBy_perm (as : List α) : (sortBy le as).Perm as := by
  induction as with
  | nil => exact .refl _
  | cons a as ih => exact (insertBy_perm le a _).trans (ih.cons a)

@[simp] theorem mem_sortBy {a : α} {as : List α} : a ∈ sortBy le as ↔ a ∈ as :=
  (sortBy_perm le as).mem_iff

@[simp] theorem length_sortBy (as : List α) : (sortBy le as).length = as.length :=
  (sortBy_perm le as).length_eq

variable {le}

theorem pairwise_insertBy (total : ∀ a b, le a b || le b a)
    (trans : ∀ a b c, le a b → le b c → le a c) (a : α) {bs : List α}
    (h : bs.Pairwise (le · ·)) : (insertBy le a bs).Pairwise (le · ·) := by
  induction bs with
  | nil => exact List.pairwise_singleton _ _
  | cons b bs ih =>
    obtain ⟨hb, hbs⟩ := List.pairwise_cons.1 h
    unfold insertBy
    split
    next hab =>
      refine List.pairwise_cons.2 ⟨fun c hc => ?_, h⟩
      rcases List.mem_cons.1 hc with rfl | hc
      · exact hab
      · exact trans _ _ _ hab (hb c hc)
    next hab =>
      refine List.pairwise_cons.2 ⟨fun c hc => ?_, ih hbs⟩
      rcases List.mem_cons.1 ((insertBy_perm le a bs).mem_iff.1 hc) with rfl | hc
      · simpa [hab] using total c b
      · exact hb c hc

theorem pairwise_sortBy (total : ∀ a b, le a b || le b a)
    (trans : ∀ a b c, le a b → le b c → le a c) (as : List α) :
    (sortBy le as).Pairwise (le · ·) := by
  induction as with
  | nil => exact .nil
  | cons a as ih => exact pairwise_insertBy total trans a ih

theorem insertBy_eq_cons {a : α} {bs : List α} (h : ∀ b ∈ bs, le a b) :
    insertBy le a bs = a :: bs := by
  cases bs with
  | nil => rfl
  | cons b bs => simp [insertBy, h b (List.mem_cons_self ..)]

theorem sortBy_eq_self {as : List α} (h : as.Pairwise (le · ·)) : sortBy le as = as := by
  induction as with
  | nil => rfl
  | cons a as ih =>
    obtain ⟨ha, has⟩ := List.pairwise_cons.1 h
    change insertBy le a (sortBy le as) = a :: as
    rw [ih has, insertBy_eq_cons ha]

end sortBy

section byNumber

variable {α : Type} (number : α → UInt32)

theorem le_number_total (a b : α) :
    decide (number a ≤ number b) || decide (number b ≤ number a) := by
  simpa using UInt32.le_total (number a) (number b)

theorem le_number_trans (a b c : α) (hab : decide (number a ≤ number b))
    (hbc : decide (number b ≤ number c)) : decide (number a ≤ number c) :=
  decide_eq_true (UInt32.le_trans (of_decide_eq_true hab) (of_decide_eq_true hbc))

theorem pairwise_sortBy_number (as : List α) :
    (sortBy (fun a b => decide (number a ≤ number b)) as).Pairwise (number · ≤ number ·) :=
  (pairwise_sortBy (le_number_total number) (le_number_trans number) as).imp of_decide_eq_true

theorem ascends_sortBy_number {as : List α} (h : (as.map number).Nodup) :
    (sortBy (fun a b => decide (number a ≤ number b)) as).Pairwise (number · < number ·) := by
  have hne : (sortBy (fun a b => decide (number a ≤ number b)) as).Pairwise (number · ≠ number ·) :=
    List.pairwise_map.1 (((sortBy_perm _ as).map number).nodup_iff.2 h)
  exact ((pairwise_sortBy_number number as).and hne).imp fun hab =>
    UInt32.lt_of_le_of_ne hab.1 hab.2

end byNumber

/-! ### Numbers -/

def sortNumbers (numbers : List UInt32) : List UInt32 :=
  sortBy (fun a b => decide (a ≤ b)) numbers

def insertDistinct (n : UInt32) : List UInt32 → List UInt32
  | [] => [n]
  | m :: ms => if n < m then n :: m :: ms else if n = m then m :: ms else m :: insertDistinct n ms

def ascending (numbers : List UInt32) : List UInt32 :=
  numbers.foldr insertDistinct []

theorem pairwise_sortNumbers (numbers : List UInt32) :
    (sortNumbers numbers).Pairwise (· ≤ ·) :=
  pairwise_sortBy_number (fun n => n) numbers

theorem sortNumbers_eq_self {numbers : List UInt32} (h : numbers.Pairwise (· ≤ ·)) :
    sortNumbers numbers = numbers :=
  sortBy_eq_self (h.imp fun hab => decide_eq_true hab)

theorem mem_insertDistinct {n m : UInt32} {ms : List UInt32} :
    n ∈ insertDistinct m ms ↔ n = m ∨ n ∈ ms := by
  induction ms with
  | nil => simp [insertDistinct]
  | cons k ks ih =>
    unfold insertDistinct
    split
    · simp
    · split
      next h => simp [h]
      next => simp only [List.mem_cons, ih]; exact or_left_comm

@[simp] theorem mem_ascending {n : UInt32} {numbers : List UInt32} :
    n ∈ ascending numbers ↔ n ∈ numbers := by
  induction numbers with
  | nil => exact Iff.rfl
  | cons m ms ih =>
    change n ∈ insertDistinct m (ascending ms) ↔ _
    rw [mem_insertDistinct, ih, List.mem_cons]

theorem pairwise_insertDistinct (n : UInt32) {ms : List UInt32} (h : ms.Pairwise (· < ·)) :
    (insertDistinct n ms).Pairwise (· < ·) := by
  induction ms with
  | nil => exact List.pairwise_singleton _ _
  | cons m ms ih =>
    obtain ⟨hm, hms⟩ := List.pairwise_cons.1 h
    unfold insertDistinct
    split
    next hnm =>
      refine List.pairwise_cons.2 ⟨fun k hk => ?_, h⟩
      rcases List.mem_cons.1 hk with rfl | hk
      · exact hnm
      · exact UInt32.lt_trans hnm (hm k hk)
    next hnm =>
      split
      · exact h
      next hne =>
        refine List.pairwise_cons.2 ⟨fun k hk => ?_, ih hms⟩
        rcases mem_insertDistinct.1 hk with rfl | hk
        · exact (UInt32.lt_or_lt_of_ne hne).resolve_left hnm
        · exact hm k hk

theorem pairwise_ascending (numbers : List UInt32) : (ascending numbers).Pairwise (· < ·) := by
  induction numbers with
  | nil => exact .nil
  | cons n ns ih => exact pairwise_insertDistinct n ih

end CrossConnect
