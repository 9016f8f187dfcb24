import CrossConnect.Json

/-!
JSON text: the compact form on one line and the pretty form with an indent of two blanks.
-/
namespace CrossConnect.Json

private def unitDigits (n : Nat) : String :=
  String.ofList [Nat.digitChar (n / 16), Nat.digitChar (n % 16)]

def escape (c : Char) : String :=
  if c = '"' then "\\\""
  else if c = '\\' then "\\\\"
  else if c = '\x08' then "\\b"
  else if c = '\x0c' then "\\f"
  else if c = '\n' then "\\n"
  else if c = '\r' then "\\r"
  else if c = '\t' then "\\t"
  else if c.toNat < 0x20 then "\\u00" ++ unitDigits c.toNat
  else c.toString

def quote (text : String) : String :=
  text.toList.foldl (fun out c => out ++ escape c) "\"" ++ "\""

mutual

def compact : Json → String
  | null => "null"
  | bool true => "true"
  | bool false => "false"
  | natural n => toString n
  | number literal => literal
  | string text => quote text
  | array items => "[" ++ compactItems items ++ "]"
  | object members => "\x7b" ++ compactMembers members ++ "\x7d"
  | valueless => "null"

def compactItems : List Json → String
  | [] => ""
  | [item] => item.compact
  | item :: items => item.compact ++ "," ++ compactItems items

def compactMembers : List (String × Json) → String
  | [] => ""
  | [(name, value)] => quote name ++ ":" ++ value.compact
  | (name, value) :: members =>
    quote name ++ ":" ++ value.compact ++ "," ++ compactMembers members

end

def lineBreak (depth : Nat) : String :=
  "\n" ++ String.ofList (List.replicate (2 * depth) ' ')

mutual

def prettyAt (depth : Nat) : Json → String
  | array [] => "[]"
  | array items =>
    "[" ++ lineBreak (depth + 1) ++ prettyItems (depth + 1) items ++ lineBreak depth ++ "]"
  | object [] => "\x7b\x7d"
  | object members =>
    "\x7b" ++ lineBreak (depth + 1) ++ prettyMembers (depth + 1) members ++ lineBreak depth ++
      "\x7d"
  | value => value.compact

def prettyItems (depth : Nat) : List Json → String
  | [] => ""
  | [item] => item.prettyAt depth
  | item :: items => item.prettyAt depth ++ "," ++ lineBreak depth ++ prettyItems depth items

def prettyMembers (depth : Nat) : List (String × Json) → String
  | [] => ""
  | [(name, value)] => quote name ++ ": " ++ value.prettyAt depth
  | (name, value) :: members =>
    quote name ++ ": " ++ value.prettyAt depth ++ "," ++ lineBreak depth ++
      prettyMembers depth members

end

def pretty (value : Json) : String :=
  value.prettyAt 0

end CrossConnect.Json
