import ChipEight.Emulator.Advance

/-!
# Emulator/Loop — the run from start to quit

A run goes in turns.  At the start of a turn the clock is read.  If the next frame is due the keys are
polled and the frame is shown; if the next report is due the title is set; then the machine is moved
on by the time since the last turn.  At the end of the turn the clock is read again and the emulator
sleeps until the next instruction or the next frame, whichever comes first.

* `work` — a turn up to its second reading, `none` if the user quits;
* `rest` — the sleep at its end;
* `run` — turns until the user quits, something fails, or the clock does not answer.
-/

namespace ChipEight.Emulator

/-- Seconds between two frames. -/
def frameInterval : Float := 1.0 / 60.0

/-- Seconds between two reports. -/
def reportInterval : Float := 1.0

/-- The times that the turns of a run keep to. -/
structure Deadlines where
  /-- The reading at the start of the last turn. -/
  last : Float
  nextFrame : Float
  nextReport : Float
  /-- Seconds between two instructions. -/
  stepInterval : Float

/-- The deadlines at the start of a run. -/
def Deadlines.start (now stepInterval : Float) : Deadlines :=
  ⟨now, now, now + reportInterval, stepInterval⟩

/-- The keys polled and the frame shown, if the frame is due; the result is the deadlines, `none` if
the user quits. -/
def serveFrame (d : Deadlines) (now : Float) : Act (Option Deadlines) := do
  if d.nextFrame ≤ now then
    if ← poll then return none
    refreshDisplay
    return some { d with nextFrame := now + frameInterval }
  else return some d

/-- The performance reported, if the report is due. -/
def serveReport (d : Deadlines) (now : Float) : Act Deadlines := do
  if d.nextReport ≤ now then
    reportPerformance
    return { d with nextReport := now + reportInterval }
  else return d

/-- A turn that begins at a time, up to its second reading of the clock; `none` if the user quits. -/
def work (d : Deadlines) (now : Float) : Act (Option Deadlines) := do
  match ← serveFrame d now with
  | none => return none
  | some d =>
    let d ← serveReport d now
    let _ ← advance (now - d.last)
    return some { d with last := now }

/-- How long to sleep at a time: to the next frame, but no longer than an instruction takes. -/
def Deadlines.sleepTime (d : Deadlines) (now : Float) : Float :=
  let untilFrame := d.nextFrame - now
  if untilFrame < d.stepInterval then untilFrame else d.stepInterval

/-- The sleep at the end of a turn. -/
def rest (d : Deadlines) (now : Float) : Act Unit := do
  if 0.0 < d.sleepTime now then sleep (d.sleepTime now)

/-- A turn; `none` if the user quits. -/
def turn (d : Deadlines) : Act (Option Deadlines) := do
  match ← work d (← readClock) with
  | none => return none
  | some d =>
    rest d (← readClock)
    return some d

/-- Turns, of which no more than a given number can begin before the clock stops to answer. -/
def turns (d : Deadlines) : Nat → Act Unit
  | 0 => throw .interrupted
  | n + 1 => do
    match ← turn d with
    | none => return ()
    | some next => turns next n

/-- The start of a run: the first reading of the clock. -/
def startRun : Act Deadlines := do
  let now ← readClock
  let speed ← attempt (← get).pace.speed.toFloat
  return .start now (1.0 / speed)

/-- **A run.**  Every turn reads the clock, so there are no more turns than readings. -/
def run : Act Unit := do
  let d ← startRun
  turns d ((← get).host.clock.remaining + 1)

end ChipEight.Emulator
