import ChipEight.Input.Terminal
import ChipEight.Input.Window

/-!
# Input — where key presses come from

There are no key presses at all, those of a window, those of a terminal, or those of a script that is
played back poll by poll.

* `Input` — the kinds of input system;
* `ScriptStep` — what a script does to the keypad.
-/

namespace ChipEight

/-- One step of a script. -/
inductive ScriptStep where
  /-- A key, by number, goes down or comes up. -/
  | key (number : Int) (down : Bool)
  /-- The user asks to quit. -/
  | quit
deriving DecidableEq, Repr

/-- An input system. -/
inductive Input where
  | none
  | window (w : WindowInput)
  | terminal (t : TerminalInput)
  /-- A script: the steps of each poll to come. -/
  | script (polls : List (List ScriptStep))

namespace ScriptStep

/-- The steps of one poll carried out: the keypad, and whether one of them asks to quit.  Steps before
one that names no key have been carried out. -/
def play (keypad : KeySet) (quit : Bool) : List ScriptStep → KeySet × Except Failure Bool
  | [] => (keypad, .ok quit)
  | .quit :: rest => play keypad true rest
  | .key number down :: rest =>
    match keypad.setNumber number down with
    | .ok next => play next quit rest
    | .error failure => (keypad, .error failure)

end ScriptStep

end ChipEight
