import ChipEight.Keymap

/-!
# Input/Terminal — keys of a terminal

A terminal tells only which characters were typed.  A *reader* takes the characters one by one and
puts the keys they stand for into a queue; a *poll* empties the queue and holds each key down for a
short time from then on.  Repeats of a key that is held in arrive before that time is over.

The reader stops at ESC or CTRL-C, for which it queues a mark; a poll that meets the mark asks to
quit.  The queue holds sixteen entries, and keys that find it full are dropped.

* `TerminalInput.receive` — what the reader does with one character;
* `TerminalInput.readAll` — the reader on a list of characters;
* `TerminalInput.poll` — what a poll does.
-/

namespace ChipEight

/-- An entry of the queue: a key, or the mark that asks to quit. -/
abbrev QueueEntry := Option Digit

/-- The keys of a terminal. -/
structure TerminalInput where
  keymap : Keymap
  /-- The time until which each key is held down. -/
  deadlines : Vector Float 16
  /-- What the reader has put in and no poll has taken out, the earliest first. -/
  queue : List QueueEntry
  /-- Whether the reader has been told to stop. -/
  stopping : Bool

namespace TerminalInput

/-- The most entries the queue holds. -/
def capacity : Nat := 16

/-- How long a key is held down, in seconds. -/
def holdTime : Float := 0.2

/-- A terminal on which nothing has been typed. -/
def start (keymap : Keymap) : TerminalInput :=
  ⟨keymap, Vector.replicate 16 0.0, [], false⟩

/-! ## The reader -/

/-- Whether a character asks to quit: ESC or CTRL-C. -/
def asksToQuit (code : Int) : Bool :=
  code == 27 || code == 3

/-- The terminal with a key queued, unless the queue is full. -/
def enqueue (t : TerminalInput) (k : Digit) : TerminalInput :=
  if t.queue.length < capacity then { t with queue := t.queue ++ [some k] } else t

/-- What the reader does with one character, and whether it reads on.  A negative number stands for
no character. -/
def receive (t : TerminalInput) (code : Int) : Except Failure (TerminalInput × Bool) := do
  if code < 0 then return (t, true)
  let small ← lowerCode code
  if asksToQuit small then return ({ t with queue := t.queue ++ [none] }, false)
  match t.keymap.key? small with
  | some k => return (t.enqueue k, true)
  | none => return (t, true)

/-- What a reader leaves behind. -/
structure Reading where
  input : TerminalInput
  /-- How many characters were read. -/
  count : Nat
  /-- What ended the reader, if not the last character or a wish to quit. -/
  failure : Option Failure

/-- The reader on characters, some of which have been read. -/
def readOn (t : TerminalInput) (count : Nat) : List Int → Reading
  | [] => ⟨t, count, none⟩
  | code :: rest =>
    if t.stopping then ⟨t, count, none⟩
    else
      match t.receive code with
      | .ok (next, true) => readOn next (count + 1) rest
      | .ok (next, false) => ⟨next, count + 1, none⟩
      | .error failure => ⟨t, count + 1, some failure⟩

/-- The reader on a list of characters. -/
def readAll (t : TerminalInput) (codes : List Int) : Reading :=
  t.readOn 0 codes

/-! ## Polls -/

/-- The terminal with a key held down until a time. -/
def hold (t : TerminalInput) (k : Digit) (deadline : Float) : TerminalInput :=
  { t with deadlines := t.deadlines.set k deadline k.val_lt }

/-- The entries up to the first mark taken out, each key held down until a time, and whether there was
a mark. -/
def drain (t : TerminalInput) (deadline : Float) : List QueueEntry → TerminalInput × Bool
  | [] => ({ t with queue := [] }, false)
  | none :: rest => ({ t with queue := rest }, true)
  | some k :: rest => (t.hold k deadline).drain deadline rest

/-- The keys that are held down at a time. -/
def heldAt (t : TerminalInput) (now : Float) : KeySet :=
  .ofPredicate fun k => now < t.deadlines.get k

/-- **A poll** that begins at one time and has emptied the queue at another: the terminal, the keypad,
and whether to quit.  A poll that meets the mark leaves the keypad as it was. -/
def poll (t : TerminalInput) (keypad : KeySet) (begun emptied : Float) :
    TerminalInput × KeySet × Bool :=
  let (next, quit) := t.drain (begun + holdTime) t.queue
  (next, if quit then keypad else next.heldAt emptied, quit)

/-- The terminal with its reader told to stop. -/
def stop (t : TerminalInput) : TerminalInput :=
  { t with stopping := true }

end TerminalInput

end ChipEight
