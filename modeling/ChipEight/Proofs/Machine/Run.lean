import ChipEight.Machine.Step
import ChipEight.Proofs.Machine.Build

/-!
# Proofs/Machine/Run — the machines that a program can lead to

Between two steps the timers may tick and keys may go down or up, in any order.  A `Move` is one of
these; a run is a list of them.  A step that fails does not end a run: the machine it leaves can move
on.

* `Reachable` — the machines that some program leads to by some run;
* `Reachable.run` — a run from a reachable machine ends in one.
-/

namespace ChipEight.Machine

/-- What can happen to a machine. -/
inductive Move where
  /-- A step, whether it runs an instruction, waits or fails. -/
  | step
  /-- A tick of both timers. -/
  | tick
  /-- A key that goes down or up. -/
  | setKey (k : Digit) (down : Bool)
  /-- All keys released. -/
  | releaseAll
deriving DecidableEq, Repr

/-- The machine after a move. -/
def after (m : Machine) : Move → Machine
  | .step => m.step.machine
  | .tick => { m with timers := m.timers.tick }
  | .setKey k down => { m with keypad := m.keypad.put k down }
  | .releaseAll => { m with keypad := ∅ }

/-- The machine after a run. -/
def run (m : Machine) (moves : List Move) : Machine :=
  moves.foldl after m

@[simp] theorem run_nil (m : Machine) : m.run [] = m := rfl

@[simp] theorem run_cons (m : Machine) (move : Move) (moves : List Move) :
    m.run (move :: moves) = (m.after move).run moves := rfl

/-- **The machines that a program can lead to.** -/
inductive Reachable : Machine → Prop where
  /-- A program that is accepted makes one. -/
  | built {program : List Int} {random : List UInt8} {live : Bool} {m : Machine}
    (h : build program random live = .ok m) : Reachable m
  /-- A move leads from one to the next. -/
  | after {m : Machine} (move : Move) (h : Reachable m) : Reachable (m.after move)

/-- **A run from a reachable machine ends in one.** -/
theorem Reachable.run {m : Machine} (h : Reachable m) (moves : List Move) :
    Reachable (m.run moves) := by
  induction moves generalizing m with
  | nil => exact h
  | cons move moves ih =>
    rw [run_cons]
    exact ih (.after move h)

/-- A program of bytes that fits leads to a machine at rest. -/
theorem Reachable.of_booted {program : List UInt8} (h : program.length ≤ 0xE00)
    (random : List UInt8) (live : Bool) : Reachable (booted program random live) :=
  .built (build_bytes h random live)

end ChipEight.Machine
