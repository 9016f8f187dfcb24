/-!
128-bit identifiers and their text: printed as hyphenated lower-case hexadecimal, read in the plain,
hyphenated, braced and URN forms.
-/
namespace CrossConnect

structure Uuid where
  bits : BitVec 128
deriving DecidableEq, Repr

namespace Uuid

def hexDigits : Nat → Nat → List Nat
  | 0, _ => []
  | count + 1, n => hexDigits count (n / 16) ++ [n % 16]

def ofHexDigits (digits : List Nat) : Nat :=
  digits.foldl (fun n d => 16 * n + d) 0

def hexValue? (c : Char) : Option Nat :=
  if '0' ≤ c ∧ c ≤ '9' then some (c.toNat - '0'.toNat)
  else if 'a' ≤ c ∧ c ≤ 'f' then some (c.toNat - 'a'.toNat + 10)
  else if 'A' ≤ c ∧ c ≤ 'F' then some (c.toNat - 'A'.toNat + 10)
  else none

def hyphenate (digits : List Char) : List Char :=
  digits.take 8 ++ '-' :: (digits.drop 8).take 4 ++ '-' :: (digits.drop 12).take 4 ++
    '-' :: (digits.drop 16).take 4 ++ '-' :: digits.drop 20

def digits (id : Uuid) : List Char :=
  (hexDigits 32 id.bits.toNat).map Nat.digitChar

def toText (id : Uuid) : String :=
  String.ofList (hyphenate id.digits)

instance : ToString Uuid := ⟨toText⟩

def ofPlain? (cs : List Char) : Option Uuid :=
  if cs.length = 32 then
    (cs.mapM hexValue?).map fun ds => ⟨BitVec.ofNat 128 (ofHexDigits ds)⟩
  else none

def ofHyphenated? (cs : List Char) : Option Uuid :=
  let ds := cs.filter (· ≠ '-')
  if hyphenate ds = cs then ofPlain? ds else none

def ofBraced? : List Char → Option Uuid
  | '{' :: cs => if cs.getLast? = some '}' then ofHyphenated? cs.dropLast else none
  | _ => none

def ofUrn? (cs : List Char) : Option Uuid :=
  if (cs.take 9).map Char.toLower = "urn:uuid:".toList then ofHyphenated? (cs.drop 9) else none

def parse? (text : String) : Option Uuid :=
  let cs := text.toList
  (ofHyphenated? cs).or ((ofPlain? cs).or ((ofBraced? cs).or (ofUrn? cs)))

end Uuid
end CrossConnect
