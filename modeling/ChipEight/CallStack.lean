import ChipEight.Failure

/-!
# CallStack — the return addresses of the calls in progress

The stack lies outside memory, so a program cannot overwrite its return addresses.  It holds a
limited number of entries.

* `push_eq_ok_iff`, `pop_eq_ok_iff` — when a call and a return succeed, and with what;
* `pop_push` — a return takes what the call before it put there.
-/

namespace ChipEight

/-- Return addresses, the latest first, and the most that may be held. -/
structure CallStack where
  entries : List Int
  limit : Int
deriving DecidableEq, Repr

namespace CallStack

/-- A stack without entries. -/
def empty (limit : Int) : CallStack := ⟨[], limit⟩

/-- The number of entries. -/
def depth (s : CallStack) : Nat := s.entries.length

/-- The entries, the earliest first. -/
def toList (s : CallStack) : List Int := s.entries.reverse

/-- An entry on top, if there is room. -/
def push (s : CallStack) (entry : Int) : Except Failure CallStack :=
  if (s.depth : Int) < s.limit then .ok { s with entries := entry :: s.entries }
  else .error (.machine (.stackOverflow s.limit))

/-- The entry on top, and the stack without it. -/
def pop (s : CallStack) : Except Failure (Int × CallStack) :=
  match s.entries with
  | entry :: rest => .ok (entry, { s with entries := rest })
  | [] => .error (.machine .stackUnderflow)

/-- **A push succeeds exactly if there is room, and puts the entry last.** -/
theorem push_eq_ok_iff {s t : CallStack} {entry : Int} :
    s.push entry = .ok t ↔
      (s.depth : Int) < s.limit ∧ t = { s with entries := entry :: s.entries } := by
  unfold push
  split
  · next h => simp [h, eq_comm]
  · next h => simp [h]

/-- **A pop succeeds exactly if there is an entry, and takes the last one.** -/
theorem pop_eq_ok_iff {s t : CallStack} {entry : Int} :
    s.pop = .ok (entry, t) ↔ s.entries = entry :: t.entries ∧ t.limit = s.limit := by
  obtain ⟨entries, limit⟩ := s
  obtain ⟨rest, limit'⟩ := t
  cases entries with
  | nil => simp [pop]
  | cons e es => simp [pop, eq_comm, and_assoc]

/-- A push fails exactly if there is no room. -/
theorem push_eq_error_iff {s : CallStack} {entry : Int} {failure : Failure} :
    s.push entry = .error failure ↔
      s.limit ≤ s.depth ∧ failure = .machine (.stackOverflow s.limit) := by
  unfold push
  split
  · next h => simp [Int.not_le.2 h]
  · next h => simp [Int.not_lt.1 h, eq_comm]

/-- A pop fails exactly if there is no entry. -/
theorem pop_eq_error_iff {s : CallStack} {failure : Failure} :
    s.pop = .error failure ↔ s.entries = [] ∧ failure = .machine .stackUnderflow := by
  obtain ⟨entries, limit⟩ := s
  cases entries with
  | nil => simp [pop, eq_comm]
  | cons e es => simp [pop]

/-- A pop takes what the push before it put there. -/
theorem pop_push {s t : CallStack} {entry : Int} (h : s.push entry = .ok t) :
    t.pop = .ok (entry, s) := by
  obtain ⟨-, rfl⟩ := push_eq_ok_iff.1 h
  rfl

@[simp] theorem length_toList (s : CallStack) : s.toList.length = s.depth :=
  List.length_reverse

@[simp] theorem toList_empty (limit : Int) : (empty limit).toList = [] := rfl

end CallStack

end ChipEight
