import CrossConnect.Failure

/-!
Messages for the user and the bounded log that holds the latest of them.
-/
namespace CrossConnect

inductive NoticeLevel
  | info
  | success
  | warning
  | error
deriving DecidableEq, Repr

structure Notice where
  level : NoticeLevel
  message : String
  code : Option String
deriving DecidableEq, Repr

namespace Notice

def info (message : String) : Notice :=
  ⟨.info, message, none⟩

def success (message : String) : Notice :=
  ⟨.success, message, none⟩

def warning (message : String) : Notice :=
  ⟨.warning, message, none⟩

def ofFailure (context : String) (failure : Failure) : Notice :=
  { level := if failure.isValidation then .warning else .error
    message := s!"{context}: {failure.message}"
    code := some failure.kind.code }

end Notice

structure NoticeLog where
  capacity : Nat
  items : List Notice
deriving DecidableEq, Repr

namespace NoticeLog

def empty (capacity : Nat) : NoticeLog :=
  { capacity := max capacity 1, items := [] }

def push (log : NoticeLog) (notice : Notice) : NoticeLog :=
  let kept := if log.items.length = log.capacity then log.items.tail else log.items
  { log with items := kept ++ [notice] }

def drain (log : NoticeLog) : List Notice × NoticeLog :=
  (log.items, { log with items := [] })

end NoticeLog
end CrossConnect
