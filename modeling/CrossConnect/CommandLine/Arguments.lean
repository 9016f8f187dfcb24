import CrossConnect.Datastore

/-!
The words of a command line and the command they stand for.
-/
namespace CrossConnect.CommandLine

structure InspectArguments where
  datastore : String := Datastore.defaultFolder
  only : Option String := none
deriving DecidableEq, Repr

structure FillArguments where
  datastore : String := Datastore.defaultFolder
  start : String
  cable : String
  bundle : Option UInt32 := none
  port : PortNumber := 1
  side : Side := .a
  json : Bool := false
deriving DecidableEq, Repr

structure InitArguments where
  datastore : String := Datastore.defaultFolder
  force : Bool := false
deriving DecidableEq, Repr

inductive Command
  | inspect (arguments : InspectArguments)
  | fill (arguments : FillArguments)
  | initConfig (arguments : InitArguments)
deriving DecidableEq, Repr

structure Options where
  valued : List String
  bare : List String

structure Given where
  values : List (String × String) := []
  bare : List String := []

namespace Given

def value? (g : Given) (options : Options) (name value : String) : Option Given :=
  if name ∈ options.valued ∧ name ∉ g.values.map Prod.fst then
    some { g with values := (name, value) :: g.values }
  else none

def bare? (g : Given) (options : Options) (name : String) : Option Given :=
  if name ∈ options.bare ∧ name ∉ g.bare then some { g with bare := name :: g.bare } else none

def find? (g : Given) (name : String) : Option String :=
  g.values.lookup name

end Given

def splitAssignment? (word : String) : Option (String × String) :=
  let cs := word.toList
  match cs.dropWhile (· ≠ '=') with
  | _ :: value => some (String.ofList (cs.takeWhile (· ≠ '=')), String.ofList value)
  | [] => none

def isPlain (word : String) : Bool :=
  word = "-" || !word.startsWith "-"

/-- Reads the words behind the name of a command. Nothing may stand alone or follow `--`. -/
def given? (options : Options) (g : Given) : List String → Option Given
  | [] => some g
  | ["--"] => some g
  | word :: words =>
    match splitAssignment? word with
    | some (name, value) => do given? options (← g.value? options name value) words
    | none =>
      if word ∈ options.bare then do given? options (← g.bare? options word) words
      else match words with
        | value :: words =>
          if isPlain value then do given? options (← g.value? options word value) words else none
        | [] => none

def integer? (text : String) : Option Int :=
  let (negative, digits) : Bool × List Char := match text.toList with
    | '-' :: cs => (true, cs)
    | '+' :: cs => (false, cs)
    | cs => (false, cs)
  if digits.isEmpty || !digits.all Char.isDigit then none
  else
    let n := digits.foldl (fun n c => 10 * n + (c.toNat - '0'.toNat)) 0
    let i : Int := if negative then -n else n
    if Int64.minValue.toInt ≤ i ∧ i ≤ Int64.maxValue.toInt then some i else none

def uint32? (text : String) : Option UInt32 := do
  let i ← integer? text
  if 0 ≤ i ∧ i < UInt32.size then some (UInt32.ofNat i.toNat) else none

def side? : String → Option Side
  | "a" => some .a
  | "b" => some .b
  | _ => none

namespace Given

def readOr {α : Type} (g : Given) (name : String) (default : α) (read? : String → Option α) :
    Option α :=
  match g.find? name with
  | some text => read? text
  | none => some default

def datastore? (g : Given) : Option String :=
  g.readOr "--datastore" Datastore.defaultFolder fun text => if text = "" then none else some text

end Given

def inspect? (words : List String) : Option InspectArguments := do
  let g ← given? { valued := ["--datastore", "--structure"], bare := [] } {} words
  return { datastore := ← g.datastore?, only := g.find? "--structure" }

def fill? (words : List String) : Option FillArguments := do
  let options :=
    { valued := ["--datastore", "--structure", "--cable", "--bundle", "--port", "--side"]
      bare := ["--json"] }
  let g ← given? options {} words
  let datastore ← g.datastore?
  let start ← g.find? "--structure"
  let cable ← g.find? "--cable"
  let bundle ← g.readOr "--bundle" none fun text => (uint32? text).map some
  let port ← g.readOr "--port" 1 uint32?
  let side ← g.readOr "--side" .a side?
  return { datastore, start, cable, bundle, port, side, json := !g.bare.isEmpty }

def initConfig? (words : List String) : Option InitArguments := do
  let g ← given? { valued := ["--datastore"], bare := ["--force"] } {} words
  return { datastore := ← g.datastore?, force := !g.bare.isEmpty }

def Command.parse? : List String → Option Command
  | "inspect" :: words => .inspect <$> inspect? words
  | "fill" :: words => .fill <$> fill? words
  | "init-config" :: words => .initConfig <$> initConfig? words
  | _ => none

def Command.datastore : Command → String
  | .inspect arguments => arguments.datastore
  | .fill arguments => arguments.datastore
  | .initConfig arguments => arguments.datastore

end CrossConnect.CommandLine
