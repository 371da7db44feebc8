import ChipEight.Proofs.Machine.Burst
import ChipEight.Proofs.Machine.Step

/-!
# Proofs/Machine/Untimed — instructions that do not mind when the timers tick

All but four instructions neither look at a timer, nor set one, nor make the machine wait.  They do
the same whatever the timers show, and leave them as they are, so ticks may come before or after any
number of them.

* `run_execute_withTiming` — an untimed instruction does the same whatever the timers show;
* `Untimed` — a number of untimed instructions leads from one machine to another;
* `Untimed.withTimers`, `Untimed.timers` — it does so **whatever the timers show**, and they stay;
* `Untimed.of_burst` — a burst that does not fail, and runs no other instruction, is one of these.
-/

namespace ChipEight

/-- Whether an instruction reads or sets a timer, or waits. -/
def Instruction.isTimed : Instruction → Bool
  | .getDelay _ | .awaitKey _ | .setDelay _ | .setSound _ => true
  | _ => false

namespace Machine

open Instruction

/-! ## Other timers -/

/-- The machine with other timers. -/
def withTimers (m : Machine) (timers : Timers) : Machine :=
  { m with timers }

/-- The machine with other timers and another wait: what only timed instructions heed. -/
def withTiming (m : Machine) (timers : Timers) (wait : KeyWait) : Machine :=
  { m with timers, wait }

@[simp] theorem timers_withTimers (m : Machine) (timers : Timers) :
    (m.withTimers timers).timers = timers := rfl

@[simp] theorem withTimers_withTimers (m : Machine) (timers timers' : Timers) :
    (m.withTimers timers).withTimers timers' = m.withTimers timers' := rfl

@[simp] theorem withTimers_timers (m : Machine) : m.withTimers m.timers = m := rfl

/-- A skip depends on neither. -/
theorem skipIf_withTiming (m : Machine) (timers : Timers) (wait : KeyWait) (condition : Bool) :
    (m.withTiming timers wait).skipIf condition = (m.skipIf condition).withTiming timers wait := by
  cases condition <;> rfl

/-! ## One instruction -/

section Instruction

variable {m next : Machine} {i : Instruction}

/-- **An untimed instruction does the same whatever the timers show**, and whatever the wait is. -/
theorem run_execute_withTiming (hi : i.isTimed = false) (hrun : (execute i).run m = .ok () next)
    (timers : Timers) (wait : KeyWait) :
    (execute i).run (m.withTiming timers wait) = .ok () (next.withTiming timers wait) := by
  cases i with
  | getDelay | awaitKey | setDelay | setSound => nomatch hi
  | ret =>
    obtain ⟨pc, rest, hentries, rfl⟩ := run_returnFromCall_eq_ok_iff.1 hrun
    exact run_returnFromCall_eq_ok_iff.2 ⟨pc, rest, hentries, rfl⟩
  | call target =>
    obtain ⟨hroom, rfl⟩ := run_callTo_eq_ok_iff.1 hrun
    exact run_callTo_eq_ok_iff.2 ⟨hroom, rfl⟩
  | skipIfByte | skipUnlessByte | skipIfEqual | skipUnlessEqual | skipIfKey | skipUnlessKey =>
    obtain ⟨⟩ := hrun
    exact congrArg (EStateM.Result.ok ()) (skipIf_withTiming m timers wait _)
  | draw x y rows =>
    obtain ⟨hrange, hside, rfl⟩ := run_drawAt_eq_ok_iff.1 hrun
    exact run_drawAt_eq_ok_iff.2 ⟨hrange, hside, rfl⟩
  | decimal x =>
    rw [run_decimal] at hrun ⊢
    obtain ⟨hrange, rfl⟩ := run_store_eq_ok_iff.1 hrun
    exact run_store_eq_ok_iff.2 ⟨hrange, rfl⟩
  | save x =>
    rw [run_save] at hrun ⊢
    obtain ⟨hrange, rfl⟩ := run_store_eq_ok_iff.1 hrun
    exact run_store_eq_ok_iff.2 ⟨hrange, rfl⟩
  | restore x =>
    obtain ⟨hrange, rfl⟩ := run_restoreFrom_eq_ok_iff.1 hrun
    exact run_restoreFrom_eq_ok_iff.2 ⟨hrange, rfl⟩
  | _ =>
    -- nothing can go wrong: the effect is a change of the machine
    obtain ⟨⟩ := hrun
    rfl

/-- An untimed instruction leaves the timers and the wait as they are. -/
theorem withTiming_of_run_execute (hi : i.isTimed = false)
    (hrun : (execute i).run m = .ok () next) : next.withTiming m.timers m.wait = next := by
  have hsame : (execute i).run m = .ok () (next.withTiming m.timers m.wait) :=
    run_execute_withTiming hi hrun m.timers m.wait
  rw [hrun] at hsame
  exact (EStateM.Result.ok.inj hsame).2.symm

/-! ## One step -/

/-- An untimed instruction leaves the timers as they are. -/
theorem Executes.timers_step (h : m.Executes i) (hi : i.isTimed = false) :
    m.step.machine.timers = m.timers :=
  (congrArg timers (withTiming_of_run_execute hi h.run)).symm

/-- …and the wait. -/
theorem Executes.wait_step (h : m.Executes i) (hi : i.isTimed = false) :
    m.step.machine.wait = m.wait :=
  (congrArg wait (withTiming_of_run_execute hi h.run)).symm

/-- After an untimed instruction the machine does not wait. -/
theorem Executes.idle_step (h : m.Executes i) (hi : i.isTimed = false) :
    m.step.machine.wait.active = false := by
  rw [h.wait_step hi]
  exact h.1.idle

/-- **A step that runs an untimed instruction runs it whatever the timers show.** -/
theorem Executes.withTimers (h : m.Executes i) (hi : i.isTimed = false) (timers : Timers) :
    (m.withTimers timers).Executes i ∧
      (m.withTimers timers).step.machine = m.step.machine.withTimers timers := by
  have hbegins : (m.withTimers timers).Begins i := ⟨h.1.idle, h.1.inRange, h.1.row⟩
  have hrun : (execute i).run (m.withTimers timers).begun = .ok ()
      (m.step.machine.withTiming timers m.wait) :=
    run_execute_withTiming hi h.run timers m.wait
  have hstep := step_of_ok hbegins hrun
  refine ⟨⟨hbegins, by rw [hstep]⟩, ?_⟩
  rw [hstep, ← h.wait_step hi]
  rfl

end Instruction

/-! ## Several instructions -/

/-- **A number of untimed instructions leads from one machine to another.** -/
inductive Untimed : Machine → Nat → Machine → Prop where
  /-- No instruction leads nowhere. -/
  | nil (m : Machine) : Untimed m 0 m
  /-- A step runs the first, and the rest follow. -/
  | cons {m last : Machine} {i : Instruction} {n : Nat} (h : m.Executes i)
    (hi : i.isTimed = false) (hrest : Untimed m.step.machine n last) : Untimed m (n + 1) last

namespace Untimed

variable {m middle last : Machine} {n k : Nat}

theorem trans (h : m.Untimed n middle) (h' : middle.Untimed k last) : m.Untimed (n + k) last := by
  induction h with
  | nil m =>
    rw [Nat.zero_add]
    exact h'
  | cons h hi hrest ih =>
    rw [Nat.succ_add]
    exact .cons h hi (ih h')

/-- Where the instructions lead is given by how many they are. -/
theorem eq_stepped (h : m.Untimed n last) : last = m.stepped n := by
  induction h with
  | nil m => rfl
  | cons h hi hrest ih => exact ih

/-- They leave the timers as they are. -/
theorem timers (h : m.Untimed n last) : last.timers = m.timers := by
  induction h with
  | nil m => rfl
  | cons h hi hrest ih => exact ih.trans (h.timers_step hi)

/-- After them the machine does not wait. -/
theorem idle (h : m.Untimed n last) (hidle : m.wait.active = false) : last.wait.active = false := by
  induction h with
  | nil m => exact hidle
  | cons h hi hrest ih => exact ih (h.idle_step hi)

/-- **They lead to the same machine whatever the timers show.** -/
theorem withTimers (h : m.Untimed n last) (timers : Timers) :
    (m.withTimers timers).Untimed n (last.withTimers timers) := by
  induction h with
  | nil m => exact .nil _
  | cons h hi hrest ih =>
    obtain ⟨hexecutes, hstep⟩ := h.withTimers hi timers
    exact .cons hexecutes hi (hstep ▸ ih)

/-- Steps that each run an instruction, none of them timed. -/
theorem of_allRun (hidle : m.wait.active = false) (hall : m.AllRun n)
    (huntimed : ∀ j < n, ∀ i, (m.stepped j).Executes i → i.isTimed = false) :
    m.Untimed n (m.stepped n) := by
  induction n generalizing m with
  | zero => exact .nil m
  | succ n ih =>
    obtain ⟨i, h⟩ := exists_executes hidle (hall 0 (Nat.succ_pos n))
    have hi := huntimed 0 (Nat.succ_pos n) i h
    refine .cons h hi (ih (h.idle_step hi) hall.tail fun j hj => ?_)
    exact huntimed (j + 1) (Nat.succ_lt_succ hj)

/-- **A burst that does not fail, and runs no timed instruction, spends its budget.** -/
theorem of_burst {budget : Nat} (hidle : m.wait.active = false)
    (hfailure : (m.burst budget).failure = none)
    (huntimed : ∀ j < (m.burst budget).ops, ∀ i, (m.stepped j).Executes i → i.isTimed = false) :
    (m.burst budget).ops = budget ∧ m.Untimed budget (m.burst budget).machine := by
  obtain ⟨hall, hends⟩ := burst_ends m budget
  have huntimed := of_allRun hidle hall huntimed
  cases hends with
  | spent hops hmachine hfailure =>
    rw [← hmachine, hops] at huntimed
    exact ⟨hops, huntimed⟩
  | waits hops hresult hmachine hfailure =>
    -- only a timed instruction begins a wait
    obtain ⟨i, hi⟩ := exists_executes (huntimed.idle hidle) hresult
    rw [hi.2] at hresult
    nomatch hresult
  | fails failure hops hresult hmachine hfailure' =>
    rw [hfailure] at hfailure'
    nomatch hfailure'

end Untimed

end Machine

end ChipEight
