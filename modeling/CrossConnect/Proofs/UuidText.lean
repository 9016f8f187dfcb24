import CrossConnect.Uuid
import Mathlib

/-!
The text of an identifier is read back as the identifier.
-/
namespace CrossConnect.Uuid

theorem length_hexDigits (count n : Nat) : (hexDigits count n).length = count := by
  induction count generalizing n with
  | zero => rfl
  | succ count ih => rw [hexDigits, List.length_append, ih, List.length_singleton]

theorem lt_of_mem_hexDigits {count n d : Nat} (h : d ∈ hexDigits count n) : d < 16 := by
  induction count generalizing n with
  | zero => cases h
  | succ count ih =>
    rcases List.mem_append.1 h with h | h
    · exact ih h
    · rw [List.mem_singleton.1 h]
      exact Nat.mod_lt _ (by decide)

theorem ofHexDigits_hexDigits (count n : Nat) :
    ofHexDigits (hexDigits count n) = n % 16 ^ count := by
  induction count generalizing n with
  | zero => rw [pow_zero, Nat.mod_one]; rfl
  | succ count ih =>
    rw [hexDigits, ofHexDigits, List.foldl_append, ← ofHexDigits, ih, pow_succ', Nat.mod_mul,
      List.foldl_cons, List.foldl_nil, Nat.add_comm]

theorem hexValue?_digitChar {d : Nat} (h : d < 16) : hexValue? d.digitChar = some d := by
  have hall : ∀ d < 16, hexValue? (Nat.digitChar d) = some d := by decide
  exact hall d h

theorem digitChar_ne_hyphen {d : Nat} (h : d < 16) : d.digitChar ≠ '-' := by
  have hall : ∀ d < 16, Nat.digitChar d ≠ '-' := by decide
  exact hall d h

theorem mapM_hexValue? {ds : List Nat} (h : ∀ d ∈ ds, d < 16) :
    (ds.map Nat.digitChar).mapM hexValue? = some ds := by
  induction ds with
  | nil => rfl
  | cons d ds ih =>
    obtain ⟨hd, hds⟩ := List.forall_mem_cons.1 h
    rw [List.map_cons, List.mapM_cons, hexValue?_digitChar hd, ih hds]
    rfl

theorem filter_sublist {cs part : List Char} (h : '-' ∉ cs) (hpart : part.Sublist cs) :
    part.filter (· ≠ '-') = part :=
  List.filter_eq_self.2 fun c hc =>
    decide_eq_true fun (hhyphen : c = '-') => h (hhyphen ▸ hpart.subset hc)

theorem filter_hyphenate {cs : List Char} (h : '-' ∉ cs) :
    (hyphenate cs).filter (· ≠ '-') = cs := by
  have hskip (part : List Char) : ('-' :: part).filter (· ≠ '-') = part.filter (· ≠ '-') := rfl
  have hgroup (start : Nat) : ((cs.drop start).take 4).filter (· ≠ '-') = (cs.drop start).take 4 :=
    filter_sublist h ((List.take_sublist _ _).trans (List.drop_sublist _ _))
  have hjoin (start : Nat) : (cs.drop start).take 4 ++ cs.drop (start + 4) = cs.drop start := by
    rw [← List.drop_drop, List.take_append_drop]
  simp only [hyphenate, List.filter_append, hskip, hgroup,
    filter_sublist h (List.take_sublist _ _), filter_sublist h (List.drop_sublist _ _),
    List.append_assoc]
  rw [hjoin 16, hjoin 12, hjoin 8, List.take_append_drop]

theorem ofPlain?_digits (id : Uuid) : ofPlain? id.digits = some id := by
  have hlength : id.digits.length = 32 := by
    rw [digits, List.length_map, length_hexDigits]
  have hbits : BitVec.ofNat 128 (id.bits.toNat % 16 ^ 32) = id.bits := by
    rw [Nat.mod_eq_of_lt (b := 16 ^ 32) id.bits.isLt, BitVec.ofNat_toNat, BitVec.setWidth_eq]
  rw [ofPlain?, if_pos hlength, digits, mapM_hexValue? fun _ => lt_of_mem_hexDigits,
    Option.map_some, ofHexDigits_hexDigits, hbits]

theorem parse?_toText (id : Uuid) : parse? id.toText = some id := by
  have hhyphen : '-' ∉ id.digits := fun h => by
    obtain ⟨d, hd, hchar⟩ := List.mem_map.1 h
    exact digitChar_ne_hyphen (lt_of_mem_hexDigits hd) hchar
  have hread : ofHyphenated? (hyphenate id.digits) = some id := by
    rw [ofHyphenated?, filter_hyphenate hhyphen, if_pos rfl, ofPlain?_digits]
  rw [parse?, toText, String.toList_ofList, hread, Option.some_or]

end CrossConnect.Uuid
