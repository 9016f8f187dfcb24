import CrossConnect.Sorting

/-!
JSON values. Objects keep their members in the order of the text, repeated names included, so that a
reader of records can tell a name that is given twice.
-/
namespace CrossConnect

inductive Json
  | null
  | bool (value : Bool)
  | natural (value : Nat)
  | number (literal : String)
  | string (text : String)
  | array (items : List Json)
  | object (members : List (String × Json))
  /-- Well-formed text without a value: an unpaired surrogate in a string or name, or a number whose
  magnitude is no finite double. -/
  | valueless
deriving Repr, Inhabited

namespace Json

def member? (name : String) : Json → Option Json
  | object members => (members.find? (·.1 == name)).map (·.2)
  | _ => none

def string? : Json → Option String
  | string text => some text
  | _ => none

def bool? : Json → Option Bool
  | bool value => some value
  | _ => none

def items? : Json → Option (List Json)
  | array items => some items
  | _ => none

mutual

def depth : Json → Nat
  | array items => depthOfItems items + 1
  | object members => depthOfMembers members + 1
  | _ => 0

def depthOfItems : List Json → Nat
  | [] => 0
  | item :: items => max item.depth (depthOfItems items)

def depthOfMembers : List (String × Json) → Nat
  | [] => 0
  | (_, value) :: members => max value.depth (depthOfMembers members)

end

mutual

def hasValue : Json → Bool
  | array items => itemsHaveValue items
  | object members => membersHaveValue members
  | valueless => false
  | _ => true

def itemsHaveValue : List Json → Bool
  | [] => true
  | item :: items => item.hasValue && itemsHaveValue items

def membersHaveValue : List (String × Json) → Bool
  | [] => true
  | (_, value) :: members => value.hasValue && membersHaveValue members

end

mutual

def sortNames : Json → Json
  | array items => .array (sortNamesOfItems items)
  | object members => .object (sortBy (fun a b => decide (a.1 ≤ b.1)) (sortNamesOfMembers members))
  | value => value

def sortNamesOfItems : List Json → List Json
  | [] => []
  | item :: items => item.sortNames :: sortNamesOfItems items

def sortNamesOfMembers : List (String × Json) → List (String × Json)
  | [] => []
  | (name, value) :: members => (name, value.sortNames) :: sortNamesOfMembers members

end

mutual

def mapStrings (f : String → String) : Json → Json
  | string text => .string (f text)
  | array items => .array (mapStringsOfItems f items)
  | object members => .object (mapStringsOfMembers f members)
  | value => value

def mapStringsOfItems (f : String → String) : List Json → List Json
  | [] => []
  | item :: items => item.mapStrings f :: mapStringsOfItems f items

def mapStringsOfMembers (f : String → String) : List (String × Json) → List (String × Json)
  | [] => []
  | (name, value) :: members => (name, value.mapStrings f) :: mapStringsOfMembers f members

end

mutual

def lastWins : Json → Json
  | array items => .array (lastWinsOfItems items)
  | object members => .object (lastWinsOfMembers members)
  | value => value

def lastWinsOfItems : List Json → List Json
  | [] => []
  | item :: items => item.lastWins :: lastWinsOfItems items

def lastWinsOfMembers : List (String × Json) → List (String × Json)
  | [] => []
  | (name, value) :: members =>
    let rest := lastWinsOfMembers members
    if rest.any (·.1 == name) then rest else (name, value.lastWins) :: rest

end

end Json
end CrossConnect
