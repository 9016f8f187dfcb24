import CrossConnect.Notice
import Mathlib

/-!
The log over any sequence of pushes and drains: it holds the latest of the notices pushed since it
was drained last, as many as it has room for, and a drain hands them out and leaves an empty log.
-/
namespace CrossConnect

inductive LogEvent
  | push (notice : Notice)
  | drain
deriving DecidableEq, Repr

def LogEvent.notice? : LogEvent → Option Notice
  | push notice => some notice
  | drain => none

def pushedSinceDrain (events : List LogEvent) : List Notice :=
  (events.rtakeWhile (· ≠ .drain)).filterMap LogEvent.notice?

@[simp] theorem pushedSinceDrain_nil : pushedSinceDrain [] = [] := by
  simp [pushedSinceDrain]

theorem pushedSinceDrain_push (events : List LogEvent) (notice : Notice) :
    pushedSinceDrain (events ++ [.push notice]) = pushedSinceDrain events ++ [notice] := by
  rw [pushedSinceDrain, List.rtakeWhile_concat_pos _ _ _ (by simp), List.filterMap_append]
  rfl

theorem pushedSinceDrain_drain (events : List LogEvent) :
    pushedSinceDrain (events ++ [.drain]) = [] := by
  rw [pushedSinceDrain, List.rtakeWhile_concat_neg _ _ _ (by simp), List.filterMap_nil]

namespace NoticeLog

def happen (log : NoticeLog) : LogEvent → NoticeLog
  | .push notice => log.push notice
  | .drain => log.drain.2

def happenAll (log : NoticeLog) (events : List LogEvent) : NoticeLog :=
  events.foldl happen log

def holding (capacity : Nat) (pushed : List Notice) : NoticeLog :=
  { capacity, items := pushed.rtake capacity }

theorem empty_eq (capacity : Nat) : empty capacity = holding (max capacity 1) [] := by
  rw [holding, List.rtake_nil, empty]

theorem push_holding {capacity : Nat} (hroom : 1 ≤ capacity) (pushed : List Notice)
    (notice : Notice) :
    (holding capacity pushed).push notice = holding capacity (pushed ++ [notice]) := by
  obtain ⟨room, rfl⟩ := Nat.exists_eq_add_of_le' hroom
  have hlength : (pushed.rtake (room + 1)).length = min pushed.length (room + 1) := by
    rw [List.rtake, List.length_drop]
    omega
  have hkept : (if (pushed.rtake (room + 1)).length = room + 1
      then (pushed.rtake (room + 1)).tail else pushed.rtake (room + 1)) = pushed.rtake room := by
    split
    next hfull =>
      have hmany : pushed.length - (room + 1) + 1 = pushed.length - room := by omega
      rw [List.rtake, List.tail_drop, hmany, List.rtake]
    next hfree =>
      have hfew : pushed.length - (room + 1) = pushed.length - room := by omega
      rw [List.rtake, hfew, List.rtake]
  rw [holding, push, hkept, holding, List.rtake_concat_succ]

theorem drain_holding (capacity : Nat) (pushed : List Notice) :
    (holding capacity pushed).drain = (pushed.rtake capacity, holding capacity []) := by
  rw [drain, holding, holding, List.rtake_nil]

theorem happenAll_empty (capacity : Nat) (events : List LogEvent) :
    (empty capacity).happenAll events = holding (max capacity 1) (pushedSinceDrain events) := by
  -- From the last event, as a drain forgets all that came before it.
  induction events using List.reverseRecOn with
  | nil => rw [pushedSinceDrain_nil, ← empty_eq, happenAll, List.foldl_nil]
  | append_singleton events event ih =>
    rw [happenAll, List.foldl_concat, ← happenAll, ih]
    cases event with
    | push notice =>
      rw [pushedSinceDrain_push]
      exact push_holding (Nat.le_max_right _ _) _ _
    | drain =>
      rw [pushedSinceDrain_drain, happen, drain_holding]

/-- After any pushes and drains the log holds the latest notices pushed since the last drain, oldest
first: as many as its capacity, which is one at least, or all of them if there are fewer. A drain
hands out exactly these and leaves the log as empty as at first. -/
theorem latest_of_happenAll (capacity : Nat) (events : List LogEvent) :
    ((empty capacity).happenAll events).items =
        (pushedSinceDrain events).rtake (max capacity 1) ∧
      ((empty capacity).happenAll events).drain =
        ((pushedSinceDrain events).rtake (max capacity 1), empty capacity) := by
  rw [happenAll_empty]
  exact ⟨rfl, by rw [drain_holding, empty_eq]⟩

example (a b c : Notice) : ((empty 2).happenAll [.push a, .push b, .push c]).items = [b, c] := rfl

end NoticeLog
end CrossConnect
