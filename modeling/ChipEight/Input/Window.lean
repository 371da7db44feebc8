import ChipEight.Keymap

/-!
# Input/Window — keys of a window

A window tells when a key goes down and when it comes up.  A key that does both between two polls
would never be noticed, so its release is held back until the next poll.  A window that loses the
focus is not told about releases any more, so every key is released then.

* `WindowInput.handle` — what one event does;
* `WindowInput.poll` — what a poll does: the releases held back come first, then the events.
-/

namespace ChipEight

/-- What a window reports. -/
inductive WindowEvent where
  | keyDown (code : Int)
  | keyUp (code : Int)
  | focusLost
  /-- The window is to be closed. -/
  | quit
  /-- Anything that does not concern the keys. -/
  | other
deriving DecidableEq, Repr

/-- The code of the key that asks to quit. -/
def escapeCode : Int := 27

/-- The keys of a window between two polls. -/
structure WindowInput where
  keymap : Keymap
  /-- The keys that went down during the latest poll. -/
  fresh : KeySet
  /-- The keys whose release is held back until the next poll. -/
  delayed : KeySet
deriving DecidableEq, Repr

namespace WindowInput

/-- A window in which no key has been touched. -/
def start (keymap : Keymap) : WindowInput := ⟨keymap, ∅, ∅⟩

/-- A poll in progress. -/
structure Polling where
  input : WindowInput
  keypad : KeySet
  /-- Whether an event has asked to quit. -/
  quit : Bool
deriving DecidableEq, Repr

/-- A key goes down. -/
def press (p : Polling) (k : Digit) : Polling :=
  { p with
    keypad := p.keypad.insert k
    input := { p.input with fresh := p.input.fresh.insert k, delayed := p.input.delayed.erase k } }

/-- A key comes up: at once, or at the next poll if it went down during this one. -/
def release (p : Polling) (k : Digit) : Polling :=
  if p.input.fresh.contains k then
    { p with input := { p.input with delayed := p.input.delayed.insert k } }
  else { p with keypad := p.keypad.erase k }

/-- What one event does. -/
def handle (p : Polling) : WindowEvent → Polling
  | .keyDown code =>
    match p.input.keymap.key? code with
    | some k => press p k
    | none => p
  | .keyUp code =>
    if code = escapeCode then { p with quit := true }
    else
      match p.input.keymap.key? code with
      | some k => release p k
      | none => p
  | .focusLost => { p with input := start p.input.keymap, keypad := ∅ }
  | .quit => { p with quit := true }
  | .other => p

/-- The start of a poll: the releases held back are carried out. -/
def beginPoll (w : WindowInput) (keypad : KeySet) : Polling :=
  ⟨start w.keymap, keypad.diff w.delayed, false⟩

/-- **A poll**: the releases held back, then every event, also after one that asks to quit. -/
def poll (w : WindowInput) (keypad : KeySet) (events : List WindowEvent) : Polling :=
  events.foldl handle (w.beginPoll keypad)

end WindowInput

end ChipEight
