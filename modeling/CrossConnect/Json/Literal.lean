import CrossConnect.Json

/-!
Number literals of JSON text: their parts, and their magnitude in double precision. The digits of a
magnitude are gathered in a significand of 64 bits beside a power of ten. Digits that find no room
in it raise the power or, behind the point, fall away.
-/
namespace CrossConnect.Json

/-! ### Magnitudes -/

/-- The nearest number with at most 53 binary digits in front of its zeros; a tie goes to the even
one. -/
def roundToDouble (n : Nat) : Nat :=
  let unit := 1 <<< (n.log2 - 52)
  let below := n / unit
  let excess := 2 * (n % unit)
  if excess < unit || (excess == unit && below % 2 == 0) then below * unit
  else (below + 1) * unit

def doubleBound : Nat := 1 <<< 1024 - 1 <<< 970

structure Magnitude where
  significand : Nat := 0
  power : Int := 0

namespace Magnitude

def extend? (m : Magnitude) (digit : Nat) : Option Nat :=
  let next := 10 * m.significand + digit
  if next < UInt64.size then some next else none

/-- Takes in the digits of the whole part. From the first one without room on, each of them raises
the power. -/
def addWhole (m : Magnitude) : List Nat → Magnitude
  | [] => m
  | digit :: digits =>
    match m.extend? digit with
    | some next => addWhole { m with significand := next } digits
    | none => { m with power := m.power + digits.length + 1 }

def addFraction (m : Magnitude) : List Nat → Magnitude
  | [] => m
  | digit :: digits =>
    match m.extend? digit with
    | some next => addFraction ⟨next, m.power - 1⟩ digits
    | none => m

def scale (m : Magnitude) (exponent : Int) : Magnitude :=
  { m with power := m.power + exponent }

/-- The magnitude is a finite double. Its significand and the power of ten are rounded before they
are multiplied; powers above 10^308 are out of range themselves. -/
def isFinite (m : Magnitude) : Bool :=
  m.significand == 0 || m.power < 0 ||
    (m.power ≤ 308 &&
      roundToDouble m.significand * roundToDouble (Nat.pow 10 m.power.toNat) < doubleBound)

end Magnitude

/-! ### Literals -/

structure Literal where
  negative : Bool
  whole : List Char
  fraction : Option (List Char)
  exponent : Option (Bool × List Char)

namespace Literal

private def digits (cs : List Char) : List Nat :=
  cs.map fun c => c.toNat - '0'.toNat

private def digitsValue (cs : List Char) : Nat :=
  (digits cs).foldl (fun n digit => 10 * n + digit) 0

private def exponent? : List Char → Option (Bool × List Char)
  | '-' :: cs => some (true, cs)
  | '+' :: cs => some (false, cs)
  | cs => some (false, cs)

private def ofUnsigned? (negative : Bool) (cs : List Char) : Option Literal := do
  let whole := cs.takeWhile Char.isDigit
  guard (whole ≠ [] ∧ (whole.head? ≠ some '0' ∨ whole.length = 1))
  let cs := cs.dropWhile Char.isDigit
  let (fraction, cs) ← match cs with
    | '.' :: cs =>
      let ds := cs.takeWhile Char.isDigit
      if ds = [] then none else some (some ds, cs.dropWhile Char.isDigit)
    | cs => some (none, cs)
  match cs with
  | [] => some ⟨negative, whole, fraction, none⟩
  | e :: cs =>
    guard (e = 'e' ∨ e = 'E')
    let (sign, ds) ← exponent? cs
    guard (ds ≠ [] ∧ ds.all Char.isDigit)
    some ⟨negative, whole, fraction, some (sign, ds)⟩

def parse? : List Char → Option Literal
  | '-' :: cs => ofUnsigned? true cs
  | cs => ofUnsigned? false cs

def exponentValue (l : Literal) : Int :=
  match l.exponent with
  | none => 0
  | some (true, ds) => -(digitsValue ds : Int)
  | some (false, ds) => digitsValue ds

def magnitude (l : Literal) : Magnitude :=
  ((({} : Magnitude).addWhole (digits l.whole)).addFraction (digits (l.fraction.getD []))).scale
    l.exponentValue

end Literal

def ofLiteral? (cs : List Char) : Option Json := do
  let l ← Literal.parse? cs
  if !l.magnitude.isFinite then some .valueless
  else match l.negative, l.fraction, l.exponent with
    | false, none, none => some (.natural (Literal.digitsValue l.whole))
    | _, _, _ => some (.number (String.ofList cs))

end CrossConnect.Json
