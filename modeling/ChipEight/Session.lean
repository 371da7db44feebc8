import ChipEight.CommandLine.Parse
import ChipEight.Emulator.Loop

/-!
# Session — a run from its settings to its end

A session checks its settings, chooses its devices, reads the program, builds the machine, opens the
display, the input system and the sound system, and runs until something ends it.  Whatever that is,
every part that was opened is given back, in the order sound, input, display.

* `prepare` — what is settled before anything is opened;
* `start` — a session up to its run, the emulator with everything open;
* `run` — a whole session;
* `command` — a session asked for on the command line, with its exit status.
-/

namespace ChipEight

open CommandLine

/-- The settings of a session.  One that is missing altogether is a failure, but only when it is
needed. -/
structure Settings where
  clockSpeed : Option (Argument Quantity)
  pixelSize : Option (Argument Quantity)
  renderer : Option (Argument String)
  /-- Whether to mute the buzzer. -/
  mute : Option (Argument Bool)
  filename : Option (Option String)
  /-- Whether to show every instruction before it runs. -/
  debug : Option Bool
  keymap : Option (Argument String)

namespace Session

/-- What a session does before and after its run: it changes the host and may fail. -/
abbrev HostAct := EStateM Failure Host

/-- An event noted. -/
def note (event : Event) : HostAct Unit :=
  modify (·.note event)

/-- A setting that must be there. -/
def need {α : Type} (name : String) : Option α → Except Failure α
  | some a => .ok a
  | none => .error (.missingSetting name)

/-- What a session prints first. -/
def notice : String :=
  banner ++ "Copyright (C) 2022 Gregory Maynard-Hoare, "
    ++ "licensed under GNU Affero General Public License v3.0"

/-! ## Before anything is opened -/

/-- A number that, if it is given, must be positive. -/
def positive (fault : StartupFault) : Argument Quantity → Except Failure (Option Quantity)
  | .absent => .ok none
  | .empty => .error .emptySetting
  | .one q => if q.isNotPositive then .error (.startup fault) else .ok (some q)

/-- The display and the sound system of a session. -/
structure Devices where
  display : DisplayKind
  sound : SoundKind
deriving DecidableEq, Repr

/-- A window; its buzzer sounds unless it is muted. -/
def windowDevices (mute : Argument Bool) : Devices :=
  ⟨.window, if mute = .one true then .silent else .mixer⟩

/-- A terminal; its bell rings only if asked for. -/
def terminalDevices (mute : Argument Bool) : Devices :=
  ⟨.terminal, if mute = .absent ∨ mute = .one true then .silent else .bell⟩

/-- The devices to use: those asked for, or a window if there is a window system, or a terminal if
there is one; `none` for a name that no device has. -/
def chooseDevices (h : Host) (renderer : Argument String) (mute : Argument Bool) :
    Except Failure (Option Devices) :=
  match renderer with
  | .absent =>
    if h.hasWindows then .ok (some (windowDevices mute))
    else if h.hasTerminal then .ok (some (terminalDevices mute))
    else .error (.startup .noSystem)
  | .one "pygame" =>
    if h.hasWindows then .ok (some (windowDevices mute)) else .error (.startup .noWindowSystem)
  | .one "curses" =>
    if h.hasTerminal then .ok (some (terminalDevices mute))
    else .error (.startup .noTerminalSystem)
  | .one "null" => .ok (some ⟨.null, .silent⟩)
  | .one _ | .empty => .ok none

/-- The bytes of the program; that a file cannot be read keeps the session from starting. -/
def readProgram (h : Host) : Option String → Except Failure (List UInt8)
  | none => .error .noFileName
  | some filename =>
    match h.files filename with
    | .error (.file name fault) => .error (.startup (.unreadableRom name fault))
    | result => result

/-- What is settled before anything is opened. -/
structure Prepared where
  machine : Machine
  devices : Devices
  clockSpeed : Option Quantity
  pixelSize : Option Quantity

/-- The settings checked, the devices chosen, the program read and the machine built, in this order. -/
def prepare (s : Settings) (h : Host) : Except Failure Prepared := do
  let clockSpeed ← need "clockspeed" s.clockSpeed
  let pixelSize ← need "pixelsize" s.pixelSize
  let clockSpeed ← positive .clockSpeed clockSpeed
  let pixelSize ← positive .pixelSize pixelSize
  let renderer ← need "renderer" s.renderer
  let mute ← need "mute" s.mute
  let devices ← chooseDevices h renderer mute
  let program ← readProgram h (← need "filename" s.filename)
  let live ← need "debug" s.debug
  let machine ← Machine.build (program.map fun b => (b.toNat : Int)) h.random live
  match devices with
  | some devices => return { machine, devices, clockSpeed, pixelSize }
  | none => throw .unknownDisplay

/-! ## Opening and giving back -/

/-- The display opened. -/
def openDisplay (p : Prepared) : HostAct Display := do
  let (display, calls) ← attempt (Display.start p.devices.display p.pixelSize)
  modify fun h => (h.noteAll (calls.map .displayCall)).note (.opened .display)
  return display

/-- The keymap asked for; none, or one without text, is the usual one. -/
def keymapText : Argument String → String
  | .absent | .empty | .one "" => Keymap.usual
  | .one text => text

/-- The terminal opened: its reader takes what is typed until it stops. -/
def openTerminal (keymap : Keymap) : HostAct Input := do
  let reading := (TerminalInput.start keymap).readAll (← get).characters
  match reading.failure with
  | some failure => note (.readerFailed failure)
  | none => pure ()
  return .terminal reading.input

/-- The input system that goes with the display. -/
def inputOf (s : Settings) (p : Prepared) : HostAct Input := do
  let text := keymapText (← attempt (need "keymap" s.keymap))
  match p.devices.display with
  | .null =>
    let _ ← attempt (Keymap.parse text false)
    return .none
  | .window => return .window (.start (← attempt (Keymap.parse text false)))
  | .terminal => openTerminal (← attempt (Keymap.parse text true))

/-- The input system opened. -/
def openInput (s : Settings) (p : Prepared) : HostAct Input := do
  let input ← inputOf s p
  note (.opened .input)
  return input

/-- The sound system opened; a mixer may not start. -/
def openSound (p : Prepared) : HostAct Sound := do
  match p.devices.sound, (← get).mixerFailure with
  | .mixer, some failure =>
    modify (·.noteAll (Sound.mixerStart.map .soundCall))
    throw failure
  | kind, _ =>
    let (sound, calls) := Sound.start kind
    modify fun h => (h.noteAll (calls.map .soundCall)).note (.opened .sound)
    return sound

/-- The display given back. -/
def closeDisplay (d : Display) (h : Host) : Host :=
  (h.note (.closed .display)).noteAll (d.close.map .displayCall)

/-- The input system given back; a terminal's reader is told to stop, which shows nowhere. -/
def closeInput (h : Host) : Host :=
  h.note (.closed .input)

/-- The sound system given back. -/
def closeSound (s : Sound) (h : Host) : Host :=
  (h.note (.closed .sound)).noteAll (s.close.map .soundCall)

/-- Everything given back: the sound system, the input system, the display. -/
def closeAll (sound : Sound) (display : Display) (h : Host) : Host :=
  closeDisplay display (closeInput (closeSound sound h))

/-- The input system and the sound system opened, and the pace set; whatever fails, all that is open
by then is given back. -/
def openRest (s : Settings) (p : Prepared) (display : Display) : HostAct Emulator := fun h =>
  match openInput s p h with
  | .error failure h => .error failure (closeDisplay display h)
  | .ok input h =>
    match openSound p h with
    | .error failure h => .error failure (closeDisplay display (closeInput h))
    | .ok sound h =>
      match Pace.start p.clockSpeed with
      | .ok pace => .ok { machine := p.machine, pace, input, display, sound, host := h } h
      | .error failure => .error failure (closeAll sound display h)

/-! ## The run -/

/-- A session up to its run: the emulator with everything open. -/
def start (s : Settings) : HostAct Emulator := do
  note (.printed notice)
  let p ← attempt (prepare s (← get))
  openRest s p (← openDisplay p)

/-- How a run leaves the host: everything is given back, whatever ended it. -/
def afterRun : EStateM.Result Failure Emulator Unit → EStateM.Result Failure Host Unit
  | .ok () e => .ok () (closeAll e.sound e.display e.host)
  | .error failure e => .error failure (closeAll e.sound e.display e.host)

/-- **A whole session.** -/
def run (s : Settings) : HostAct Unit := fun h =>
  match start s h with
  | .ok e _ => afterRun (Emulator.run e)
  | .error failure h => .error failure h

/-! ## The command line -/

/-- The settings that options ask for. -/
def settingsOf (o : Options) : Settings where
  clockSpeed := some (o.clockSpeed.map .whole)
  pixelSize := some (o.pixelSize.map .whole)
  renderer := some o.renderer
  mute := some (o.mute.map (· ≠ 0))
  filename := some (some o.filename)
  debug := some o.debug
  keymap := some o.keymap

/-- What an exit prints, and the failure it is. -/
def exit (e : Exit) : HostAct Options := do
  match e with
  | .help => note (.printed help)
  | .version => note (.printed version)
  | .misuse problem =>
    note (.complained (usage ++ "\n" ++ programName ++ ": error: " ++ problem))
  throw (.exit e.status)

/-- The options on the command line. -/
def options (args : List String) : HostAct Options :=
  match parse args with
  | .ok o => pure o
  | .error e => exit e

/-- How a session that has ended is reported: a failure that halts emulation is told to the user and
gives status 1, any other failure stays one. -/
def report : EStateM.Result Failure Host Unit → EStateM.Result Failure Host Nat
  | .ok () h => .ok 0 h
  | .error failure h =>
    if failure.haltsEmulation then
      .ok 1 (h.note (.complained ("Emulation halted.\n\n" ++ failure.message)))
    else .error failure h

/-- **A session asked for on the command line**, with its exit status. -/
def command (args : List String) : HostAct Nat := do
  let o ← options args
  fun h => report (run (settingsOf o) h)

/-- A session asked for on the command line as a program of its own: it ends by exiting with its
status. -/
def script (args : List String) : HostAct Unit := do
  throw (.exit (← command args))

end Session

end ChipEight
