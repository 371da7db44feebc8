import ChipEight.Session

/-!
# Main — the program

A session is pure: it takes files, time and random bytes from its host and notes what it does in a
journal.  Here the host is filled in from the system and the journal is carried out, turn by turn, so
that every reading of the clock is taken when it is needed.

The program has neither a window nor a terminal system, so the `null` display is the one that runs.

* `perform` — an act of the emulator, and then what it has noted carried out;
* `turns` — the turns of a run, in real time;
* `main` — the program.
-/

namespace ChipEight.Console

open Emulator

/-- How an act ends: with a value or a failure, and with what it has changed. -/
abbrev Result (σ α : Type) := EStateM.Result Failure σ α

/-! ## The journal carried out -/

/-- An event carried out: lines are printed, and a sleep is slept. -/
def carryOut : Event → IO Unit
  | .printed line => IO.println line
  | .complained line => IO.eprintln line
  | .slept seconds => do
    (← IO.getStdout).flush
    IO.sleep (seconds * 1000.0).ceil.toUInt32
  | _ => pure ()

/-- The journal carried out and emptied. -/
def carryOutAll (h : Host) : IO Host := do
  h.events.forM carryOut
  return { h with journal := [] }

/-- An act of the emulator, and then what it has noted carried out. -/
def perform {α : Type} (act : Act α) (e : Emulator) : IO (Result Emulator α) := do
  match act e with
  | .ok a e => return .ok a { e with host := ← carryOutAll e.host }
  | .error failure e => return .error failure { e with host := ← carryOutAll e.host }

/-! ## The host filled in -/

/-- Seconds on the system's clock. -/
def readTime : IO Float := do
  return (← IO.monoNanosNow).toFloat / 1.0e9

/-- Why the system could not read a file. -/
def faultOf : IO.Error → FileFault
  | .noFileOrDirectory .. => .noSuchFile
  | .permissionDenied _ number reason | .inappropriateType _ number reason =>
    .other number.toNat reason
  | error => .other 0 error.toString

/-- The bytes of a file, or why there are none. -/
def readFile (name : String) : IO (Except Failure (List UInt8)) := do
  match ← (IO.FS.readBinFile name).toBaseIO with
  | .ok bytes => return .ok bytes.toList
  | .error error => return .error (.file name (faultOf error))

/-- How many instructions a slice of time is due. -/
def stepsWithin (p : Pace) (seconds : Float) : Nat :=
  match (p.wait seconds).stepsDue with
  | .ok due => (due - p.stepsDone).toNat
  | .error _ => 0

/-- The machine with a random byte for every instruction to come. -/
def fillRandom (steps : Nat) (m : Machine) : IO Machine := do
  let fresh ← IO.getRandomBytes (steps - m.random.length).toUSize
  return { m with random := m.random ++ fresh.toList }

/-! ## The run -/

/-- Turns in real time, until the user quits or something fails. -/
partial def turns (d : Deadlines) (e : Emulator) : IO (Result Emulator Unit) := do
  let now ← readTime
  let machine ← fillRandom (stepsWithin e.pace (now - d.last)) e.machine
  match ← perform (work d now) { e with machine } with
  | .error failure e => return .error failure e
  | .ok none e => return .ok () e
  | .ok (some d) e =>
    match ← perform (rest d (← readTime)) e with
    | .error failure e => return .error failure e
    | .ok () e => turns d e

/-- A run in real time. -/
def drive (e : Emulator) : IO (Result Emulator Unit) := do
  let now ← readTime
  let clock : Clock := { listed := some [now], now, stride := 0.0, remaining := 1 }
  match ← perform startRun { e with host := { e.host with clock } } with
  | .error failure e => return .error failure e
  | .ok d e => turns d e

/-- A session in real time. -/
def session (s : Settings) (h : Host) : IO (Result Host Unit) := do
  match Session.start s h with
  | .error failure h => return .error failure h
  | .ok e _ => return Session.afterRun (← drive e)

/-- The status of a failure; one that was not reported yet is reported now. -/
def statusOf : Failure → IO UInt32
  | .exit status => return status.toUInt32
  | failure => do
    IO.eprintln failure.message
    return 1

/-- How the program ends. -/
def finish : Result Host Nat → IO UInt32
  | .ok status h => do
    let _ ← carryOutAll h
    return status.toUInt32
  | .error failure h => do
    let _ ← carryOutAll h
    statusOf failure

/-- The system as a host, before anything has happened. -/
def systemHost : Host :=
  { Host.quiet with hasWindows := false, hasTerminal := false }

end ChipEight.Console

open ChipEight ChipEight.Console in
/-- **The program.** -/
def main (args : List String) : IO UInt32 := do
  match Session.options args systemHost with
  | .error failure h => finish (.error failure h)
  | .ok o h =>
    let content ← readFile o.filename
    let result ← session (Session.settingsOf o) { h with files := fun _ => content }
    finish (Session.report result)
