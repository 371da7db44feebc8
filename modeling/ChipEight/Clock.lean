/-!
# Clock — the outside clock

A clock gives readings in seconds until it stops answering, which interrupts whoever reads it.  The
readings come from a list, or from a time that moves on by a stride at every reading; sleeping moves
that time on too.

* `Clock.read` — the next reading;
* `Clock.remaining_read` — a reading uses one answer up.
-/

namespace ChipEight

/-- A clock and the answers it has left. -/
structure Clock where
  /-- The readings to come, if they are listed. -/
  listed : Option (List Float)
  /-- The time of a clock whose readings are not listed. -/
  now : Float
  /-- What every such reading moves the time on by. -/
  stride : Float
  /-- How many more readings are answered. -/
  remaining : Nat

namespace Clock

/-- A clock that stands still, with no answer left. -/
def stopped : Clock := ⟨none, 0.0, 0.0, 0⟩

/-- The next reading and the clock after it, `none` if the clock does not answer. -/
def read (c : Clock) : Option (Float × Clock) :=
  match c.remaining, c.listed with
  | 0, _ => none
  | n + 1, none => some (c.now, { c with now := c.now + c.stride, remaining := n })
  | n + 1, some (t :: rest) => some (t, { c with listed := some rest, remaining := n })
  | _ + 1, some [] => none

/-- The clock after a sleep. -/
def sleep (c : Clock) (seconds : Float) : Clock :=
  { c with now := c.now + seconds }

/-- A reading uses one answer up. -/
theorem remaining_read {c next : Clock} {t : Float} (h : c.read = some (t, next)) :
    next.remaining + 1 = c.remaining := by
  obtain ⟨listed, now, stride, remaining⟩ := c
  cases remaining with
  | zero => simp [read] at h
  | succ n =>
    rcases listed with _ | _ | ⟨first, rest⟩
    · obtain ⟨-, rfl⟩ := Prod.mk.inj (Option.some.inj h)
      rfl
    · simp [read] at h
    · obtain ⟨-, rfl⟩ := Prod.mk.inj (Option.some.inj h)
      rfl

end Clock

end ChipEight
