/-!
Failures as they travel between the authority and its clients: a kind that programs read and a
message for people.
-/
namespace CrossConnect

inductive FailureKind
  | transport
  | rejected
  | notFound
  | validation
  | conflict
  | storage
deriving DecidableEq, Repr, Inhabited

namespace FailureKind

def all : List FailureKind :=
  [transport, rejected, notFound, validation, conflict, storage]

def code : FailureKind → String
  | transport => "transport"
  | rejected => "rejected"
  | notFound => "not_found"
  | validation => "validation"
  | conflict => "conflict"
  | storage => "storage"

def heading : FailureKind → String
  | transport => "transport error"
  | rejected => "rejected"
  | notFound => "not found"
  | validation => "validation error"
  | conflict => "conflict"
  | storage => "storage error"

end FailureKind

structure Failure where
  kind : FailureKind
  message : String
deriving DecidableEq, Repr, Inhabited

namespace Failure

def isValidation (f : Failure) : Bool :=
  f.kind = .validation

def display (f : Failure) : String :=
  f.kind.heading ++ ": " ++ f.message

end Failure
end CrossConnect
