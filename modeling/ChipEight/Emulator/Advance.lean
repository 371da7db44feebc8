import ChipEight.Emulator

/-!
# Emulator/Advance — a slice of time

A slice of time is added to the elapsed time, and everything that has fallen due runs: first the
instructions, then the timer ticks, then the buzzer is brought up to date.  A wait for a key ends the
instructions of a slice, and those it cuts off are not made up for later.

* `advance` — a slice of time; the result is how many instructions and ticks it ran;
* `advanceBy` — a slice of a time that may be a whole number.
-/

namespace ChipEight.Emulator

/-- **A slice of time.** -/
def advance (seconds : Float) : Act (Nat × Int) := do
  note (.advanced seconds)
  modifyPace (·.wait seconds)
  let pace := (← get).pace
  let stepsDue ← attempt pace.stepsDue
  let ticksDue ← attempt pace.ticksDue
  let ops ← runSteps (stepsDue - pace.stepsDone).toNat
  let ticks := ticksDue - pace.ticksDone
  modifyMachine fun m => { m with timers := m.timers.ticks ticks.toNat }
  modifyPace fun p => { p with stepsDone := stepsDue, ticksDone := ticksDue }
  updateBuzzer
  modifyPace fun p => { p with ops := p.ops + ops }
  return (ops, ticks)

/-- A slice of a time that may be a whole number; one beyond every double changes nothing. -/
def advanceBy (seconds : Quantity) : Act (Nat × Int) := do
  advance (← attempt seconds.toFloat)

end ChipEight.Emulator
