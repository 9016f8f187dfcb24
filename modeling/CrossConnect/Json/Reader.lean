import CrossConnect.Json.Literal

/-!
Strict reading of JSON text in two passes over it: characters to tokens, then tokens to a value with
a stack of the containers that are still open. Each pass is a fold of one step, so both are total.
-/
namespace CrossConnect.Json

def ofWord? (cs : List Char) : Option Json :=
  if cs = "null".toList then some .null
  else if cs = "true".toList then some (.bool true)
  else if cs = "false".toList then some (.bool false)
  else none

/-! ### Tokens -/

inductive Token
  | openArray
  | closeArray
  | openObject
  | closeObject
  | comma
  | colon
  | text (value : Option String)
  | scalar (value : Json)

/-- Characters read so far of an unfinished string, last first; `high` is a leading surrogate that
waits for its partner. -/
structure OpenText where
  done : List Char := []
  high : Option Nat := none
  broken : Bool := false

namespace OpenText

def settle (t : OpenText) : OpenText :=
  if t.high.isSome then { t with high := none, broken := true } else t

def push (t : OpenText) (c : Char) : OpenText :=
  let t := t.settle
  { t with done := c :: t.done }

def pushUnit (t : OpenText) (unit : Nat) : OpenText :=
  if 0xDC00 ≤ unit ∧ unit < 0xE000 then
    match t.high with
    | some high =>
      let c := Char.ofNat (0x10000 + (high - 0xD800) * 0x400 + (unit - 0xDC00))
      { t with done := c :: t.done, high := none }
    | none => { t with broken := true }
  else
    let t := t.settle
    if 0xD800 ≤ unit ∧ unit < 0xDC00 then { t with high := some unit }
    else { t with done := Char.ofNat unit :: t.done }

def finish (t : OpenText) : Token :=
  let t := t.settle
  .text (if t.broken then none else some (String.ofList t.done.reverse))

end OpenText

inductive Lexing
  | between
  | word (done : List Char)
  | number (done : List Char)
  | inText (t : OpenText)
  | escape (t : OpenText)
  | unit (t : OpenText) (count : Nat) (value : Nat)

namespace Lexing

private def hexDigit? (c : Char) : Option Nat :=
  if '0' ≤ c ∧ c ≤ '9' then some (c.toNat - '0'.toNat)
  else if 'a' ≤ c ∧ c ≤ 'f' then some (c.toNat - 'a'.toNat + 10)
  else if 'A' ≤ c ∧ c ≤ 'F' then some (c.toNat - 'A'.toNat + 10)
  else none

private def escaped? : Char → Option Char
  | '"' => some '"'
  | '\\' => some '\\'
  | '/' => some '/'
  | 'b' => some '\x08'
  | 'f' => some '\x0c'
  | 'n' => some '\n'
  | 'r' => some '\r'
  | 't' => some '\t'
  | _ => none

private def numberChar (c : Char) : Bool :=
  c.isDigit || c == '-' || c == '+' || c == '.' || c == 'e' || c == 'E'

private def start (c : Char) (tokens : List Token) : Option (Lexing × List Token) :=
  match c with
  | ' ' | '\n' | '\r' | '\t' => some (.between, tokens)
  | '[' => some (.between, .openArray :: tokens)
  | ']' => some (.between, .closeArray :: tokens)
  | '{' => some (.between, .openObject :: tokens)
  | '}' => some (.between, .closeObject :: tokens)
  | ',' => some (.between, .comma :: tokens)
  | ':' => some (.between, .colon :: tokens)
  | '"' => some (.inText {}, tokens)
  | c =>
    if c.isDigit || c == '-' then some (.number [c], tokens)
    else if c.isLower then some (.word [c], tokens)
    else none

def step : Lexing × List Token → Char → Option (Lexing × List Token)
  | (.between, tokens), c => start c tokens
  | (.word done, tokens), c =>
    if c.isLower then some (.word (c :: done), tokens)
    else do start c (.scalar (← ofWord? done.reverse) :: tokens)
  | (.number done, tokens), c =>
    if numberChar c then some (.number (c :: done), tokens)
    else do start c (.scalar (← ofLiteral? done.reverse) :: tokens)
  | (.inText t, tokens), c =>
    if c = '"' then some (.between, t.finish :: tokens)
    else if c = '\\' then some (.escape t, tokens)
    else if c.toNat < 0x20 then none
    else some (.inText (t.push c), tokens)
  | (.escape t, tokens), c =>
    if c = 'u' then some (.unit t 0 0, tokens)
    else (escaped? c).map fun c => (.inText (t.push c), tokens)
  | (.unit t count value, tokens), c => do
    let value := 16 * value + (← hexDigit? c)
    if count = 3 then some (.inText (t.pushUnit value), tokens)
    else some (.unit t (count + 1) value, tokens)

def finish? : Lexing × List Token → Option (List Token)
  | (.between, tokens) => some tokens
  | (.word done, tokens) => do some (.scalar (← ofWord? done.reverse) :: tokens)
  | (.number done, tokens) => do some (.scalar (← ofLiteral? done.reverse) :: tokens)
  | _ => none

end Lexing

def tokens? (cs : List Char) : Option (List Token) := do
  let final ← cs.foldlM Lexing.step (.between, [])
  (← Lexing.finish? final).reverse

/-! ### Values -/

/-- A container that is still open, its parts last first. An object with a name that has no value
has no value itself. -/
inductive Frame
  | array (done : List Json)
  | object (done : List (String × Json)) (broken : Bool)
  | member (done : List (String × Json)) (broken : Bool) (name : Option String)

inductive Expected
  | value
  | firstItem
  | firstName
  | name
  | colon
  | separator

/-- A partly read text: the open containers, innermost first, what may follow, and the value once it
is complete. -/
structure Reading where
  stack : List Frame := []
  expected : Expected := .value
  result : Option Json := none

namespace Reading

private def supply (r : Reading) (v : Json) : Reading :=
  match r.stack with
  | .array done :: stack => { r with stack := .array (v :: done) :: stack, expected := .separator }
  | .member done broken name :: stack =>
    let frame := match name with
      | some name => .object ((name, v) :: done) broken
      | none => .object done true
    { r with stack := frame :: stack, expected := .separator }
  | stack => { stack, expected := .separator, result := some v }

private def enter (r : Reading) (frame : Frame) (expected : Expected) : Reading :=
  { r with stack := frame :: r.stack, expected }

private def leave (r : Reading) (v : Json) : Reading :=
  { r with stack := r.stack.tail }.supply v

private def named (r : Reading) (name : Option String) : Option Reading :=
  match r.stack with
  | .object done broken :: stack =>
    some { r with stack := .member done broken name :: stack, expected := .colon }
  | _ => none

private def valueStep (r : Reading) : Token → Option Reading
  | .openArray => some (r.enter (.array []) .firstItem)
  | .openObject => some (r.enter (.object [] false) .firstName)
  | .text value => some (r.supply (value.elim .valueless .string))
  | .scalar v => some (r.supply v)
  | _ => none

private def close (r : Reading) : Token → Option Reading
  | .closeArray =>
    match r.stack with
    | .array done :: _ => some (r.leave (.array done.reverse))
    | _ => none
  | .closeObject =>
    match r.stack with
    | .object done broken :: _ =>
      some (r.leave (if broken then .valueless else .object done.reverse))
    | _ => none
  | _ => none

def step (r : Reading) (token : Token) : Option Reading :=
  match r.expected, token with
  | .value, token => r.valueStep token
  | .firstItem, .closeArray => r.close .closeArray
  | .firstItem, token => r.valueStep token
  | .firstName, .text name => r.named name
  | .firstName, .closeObject => r.close .closeObject
  | .name, .text name => r.named name
  | .colon, .colon => some { r with expected := .value }
  | .separator, .comma =>
    match r.stack with
    | .array _ :: _ => some { r with expected := .value }
    | .object _ _ :: _ => some { r with expected := .name }
    | _ => none
  | .separator, token => r.close token
  | _, _ => none

end Reading

def parse? (text : String) : Option Json := do
  let tokens ← tokens? text.toList
  let r ← tokens.foldlM Reading.step {}
  if r.stack.isEmpty then r.result else none

end CrossConnect.Json
