import ChipEight.Clock
import ChipEight.Display
import ChipEight.FileTree
import ChipEight.Input
import ChipEight.Sound

/-!
# Host — the world around the emulator

The host is the clock, the files, the window and terminal systems, and what they will report.  All
that the emulator does to the host, and all that it learns from it, is noted in a journal.

* `Event` — what the journal notes;
* `Host.note` — an event noted;
* `Host.events_note` — the journal grows at its end.
-/

namespace ChipEight

/-- The parts of a running emulator that are opened before a run and given back after it. -/
inductive Part where
  | sound
  | input
  | display
deriving DecidableEq, Repr

/-- What happens between the emulator and its host. -/
inductive Event where
  /-- A line is printed. -/
  | printed (line : String)
  /-- A line is printed where errors are told. -/
  | complained (line : String)
  /-- The clock is read. -/
  | clockRead (time : Float)
  /-- The input system is asked for key presses; it may ask to quit. -/
  | polled (quit : Bool)
  /-- A frame is handed to the display. -/
  | refreshed
  /-- The title that reports performance is handed to the display. -/
  | titled (title : String)
  /-- The machine is moved on by some seconds. -/
  | advanced (seconds : Float)
  /-- The buzzer is switched on or off. -/
  | buzzer (on : Bool)
  /-- The emulator sleeps. -/
  | slept (seconds : Float)
  /-- The reader of a terminal's characters ends because of a failure. -/
  | readerFailed (failure : Failure)
  /-- A part is open. -/
  | opened (part : Part)
  /-- A part is given back. -/
  | closed (part : Part)
  /-- The display calls the system it draws on. -/
  | displayCall (call : DisplayCall)
  /-- The sound system calls the mixer or the bell. -/
  | soundCall (call : SoundCall)
deriving DecidableEq, Repr

/-- The world around the emulator. -/
structure Host where
  clock : Clock
  /-- The bytes of the file at a path, or why there are none. -/
  files : String → Except Failure (List UInt8)
  /-- Whether there is a window system. -/
  hasWindows : Bool
  /-- Whether there is a terminal system. -/
  hasTerminal : Bool
  /-- Whether the terminal system can be told a new size. -/
  canResize : Bool
  /-- Why the mixer does not start, if it does not. -/
  mixerFailure : Option Failure
  /-- What the window reports at each poll to come. -/
  windowEvents : List (List WindowEvent)
  /-- What is typed on the terminal. -/
  characters : List Int
  /-- The heights and widths of the screen to come, and the one that stays after them. -/
  screens : List (Int × Int)
  screen : Int × Int
  /-- The random bytes to come. -/
  random : List UInt8
  /-- What has happened, the latest first. -/
  journal : List Event

namespace Host

/-- The size of a screen of which nothing is known. -/
def usualScreen : Int × Int := (34, 130)

/-- A host on which nothing is typed and no time passes. -/
def quiet : Host where
  clock := .stopped
  files := FileTree.read ⟨[]⟩
  hasWindows := true
  hasTerminal := true
  canResize := true
  mixerFailure := none
  windowEvents := []
  characters := []
  screens := []
  screen := usualScreen
  random := []
  journal := []

/-- What has happened, the earliest first. -/
def events (h : Host) : List Event := h.journal.reverse

/-- An event noted. -/
def note (h : Host) (event : Event) : Host :=
  { h with journal := event :: h.journal }

/-- Events noted, the earliest first. -/
def noteAll (h : Host) (events : List Event) : Host :=
  { h with journal := events.reverse ++ h.journal }

/-- The size of the screen, and the host with the next one to come. -/
def takeScreen (h : Host) : (Int × Int) × Host :=
  match h.screens with
  | [] => (h.screen, h)
  | size :: rest => (size, { h with screens := rest, screen := size })

/-- What the window reports at this poll, and the host with the next poll to come. -/
def takeWindowEvents (h : Host) : List WindowEvent × Host :=
  match h.windowEvents with
  | [] => ([], h)
  | events :: rest => (events, { h with windowEvents := rest })

/-- The journal grows at its end. -/
@[simp] theorem events_note (h : Host) (event : Event) :
    (h.note event).events = h.events ++ [event] := by
  simp [events, note]

/-- The journal grows at its end. -/
@[simp] theorem events_noteAll (h : Host) (events : List Event) :
    (h.noteAll events).events = h.events ++ events := by
  simp [Host.events, noteAll]

/-- An event and then others. -/
theorem events_note_noteAll (h : Host) (event : Event) (events : List Event) :
    ((h.note event).noteAll events).events = h.events ++ event :: events := by
  rw [events_noteAll, events_note, List.append_assoc, List.singleton_append]

/-- Events and then others are all of them in turn. -/
theorem noteAll_noteAll (h : Host) (events events' : List Event) :
    (h.noteAll events).noteAll events' = h.noteAll (events ++ events') := by
  simp [noteAll]

end Host

end ChipEight
