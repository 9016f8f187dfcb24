/-!
Paths of files, taken apart into the names on them, and what can go wrong on the way along one.
-/
namespace CrossConnect

inductive FileError
  | notFound
  | alreadyExists
  | notFolder
  | isFolder
  | nameTooLong
  | nullInName
  | notText
deriving DecidableEq, Repr

def FileError.message : FileError → String
  | notFound => "No such file or directory (os error 2)"
  | alreadyExists => "File exists (os error 17)"
  | notFolder => "Not a directory (os error 20)"
  | isFolder => "Is a directory (os error 21)"
  | nameTooLong => "File name too long (os error 36)"
  | nullInName => "file name contained an unexpected NUL byte"
  | notText => "stream did not contain valid UTF-8"

abbrev Location := List String

structure Path where
  absolute : Bool
  /-- The names on it, last first, with `.` and `..` among them. -/
  names : List String
deriving DecidableEq, Repr

namespace Path

def maxBytes : Nat := 4096

def maxNameBytes : Nat := 255

/-- The path that a text stands for; names between two slashes may be empty and count for
nothing. -/
def ofString (text : String) : Except FileError Path :=
  if text.contains '\x00' then .error .nullInName
  else if maxBytes ≤ text.utf8ByteSize then .error .nameTooLong
  else if text.isEmpty then .error .notFound
  else .ok ⟨text.startsWith "/", ((text.splitOn "/").filter (· ≠ "")).reverse⟩

def ofLocation (place : Location) : Path :=
  ⟨true, place.reverse⟩

instance : ToString Path where
  toString p := (if p.absolute then "/" else "") ++ "/".intercalate p.names.reverse

def join (folder name : String) : String :=
  if folder = "" ∨ folder.endsWith "/" then folder ++ name else folder ++ "/" ++ name

/-- The paths that end in a name that leads somewhere: `.` does so only in front of all others. -/
def leading (absolute : Bool) : List String → List Path
  | [] => []
  | name :: above =>
    if name = "." && (absolute || !above.isEmpty) then leading absolute above
    else ⟨absolute, name :: above⟩ :: leading absolute above

def ancestors (p : Path) : List Path :=
  match leading p.absolute p.names with
  | [] => []
  | _ :: above => p :: above

end Path
end CrossConnect
