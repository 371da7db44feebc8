import ChipEight.Host
import ChipEight.Machine.Step
import ChipEight.Pace

/-!
# Emulator — a machine among its devices

An emulator is a machine with a pace, an input system, a display, a sound system and a host.  What it
does is an `Act`: it changes the emulator and may fail, and after a failure the emulator is as the act
left it.

* `Emulator.runSteps` — the machine moved on;
* `Emulator.poll`, `refreshDisplay`, `reportPerformance`, `updateBuzzer` — the devices served;
* `Emulator.readClock`, `sleep` — time taken from the host.
-/

namespace ChipEight

/-- A machine among its devices. -/
structure Emulator where
  machine : Machine
  pace : Pace
  input : Input
  display : Display
  sound : Sound
  host : Host

/-- What an emulator does. -/
abbrev Act := EStateM Failure Emulator

namespace Emulator

/-! ## Changing one part -/

/-- The host changed. -/
def modifyHost (f : Host → Host) : Act Unit :=
  modify fun e => { e with host := f e.host }

/-- An event noted. -/
def note (event : Event) : Act Unit :=
  modifyHost (·.note event)

/-- The pace changed. -/
def modifyPace (f : Pace → Pace) : Act Unit :=
  modify fun e => { e with pace := f e.pace }

/-- The machine changed. -/
def modifyMachine (f : Machine → Machine) : Act Unit :=
  modify fun e => { e with machine := f e.machine }

/-! ## Time -/

/-- The next reading of the clock; a clock that does not answer interrupts the run. -/
def readClock : Act Float := do
  match (← get).host.clock.read with
  | some (time, clock) =>
    modifyHost fun h => { h with clock }.note (.clockRead time)
    return time
  | none => throw .interrupted

/-- A sleep. -/
def sleep (seconds : Float) : Act Unit :=
  modifyHost fun h => { h with clock := h.clock.sleep seconds }.note (.slept seconds)

/-! ## The machine -/

/-- Steps until a budget is spent, a step waits, or one fails; the result is how many instructions
ran. -/
def runSteps (budget : Nat) : Act Nat := do
  let b := (← get).machine.burst budget
  modify fun e =>
    { e with
      machine := b.machine
      host := e.host.noteAll (b.printed.reverse.map .printed) }
  match b.failure with
  | some failure => throw failure
  | none => return b.ops

/-! ## The devices -/

/-- The sound system told whether to sound, if that differs from what it was last told. -/
def updateBuzzer : Act Unit := do
  let e ← get
  let sounding := e.machine.timers.isSounding
  if sounding ≠ e.pace.buzzer then
    let (sound, calls) := e.sound.enable sounding
    set { e with
      sound
      pace := { e.pace with buzzer := sounding }
      host := (e.host.note (.buzzer sounding)).noteAll (calls.map .soundCall) }

/-- The frame shown, and counted. -/
def refreshDisplay : Act Unit := do
  let e ← get
  let (screen, host) := if e.display.hasScreen then e.host.takeScreen else (e.host.screen, e.host)
  let (display, calls) := e.display.refresh e.machine.display.pixels screen host.canResize
  set { e with
    display
    pace := { e.pace with frames := e.pace.frames + 1 }
    host := (host.note .refreshed).noteAll (calls.map .displayCall) }

/-- A title shown. -/
def setTitle (title : String) : Act Unit := do
  let e ← get
  let (display, calls) := e.display.setTitle title
  set { e with
    display
    host := (e.host.note (.titled title)).noteAll (calls.map .displayCall) }

/-- The counts since the last report shown in the title, and begun anew. -/
def reportPerformance : Act Unit := do
  setTitle (← get).pace.report
  modifyPace fun p => { p with frames := 0, ops := 0 }

/-- The keypad brought up to date; the result is whether the user asks to quit. -/
def serveInput : Act Bool := do
  let e ← get
  match e.input with
  | .none => return false
  | .window w =>
    let (events, host) := e.host.takeWindowEvents
    let p := w.poll e.machine.keypad events
    set { e with host, input := .window p.input, machine := { e.machine with keypad := p.keypad } }
    return p.quit
  | .terminal t =>
    let now := e.host.clock.now
    let (next, keypad, quit) := t.poll e.machine.keypad now now
    set { e with input := .terminal next, machine := { e.machine with keypad } }
    return quit
  | .script polls =>
    let (keypad, result) := ScriptStep.play e.machine.keypad false (polls.headD [])
    set { e with input := .script polls.tail, machine := { e.machine with keypad } }
    attempt result

/-- A poll: the keypad brought up to date; the result is whether the user asks to quit. -/
def poll : Act Bool := do
  let quit ← serveInput
  note (.polled quit)
  return quit

end Emulator

end ChipEight
