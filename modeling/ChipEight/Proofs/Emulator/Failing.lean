import ChipEight.Proofs.Emulator.TimerClock
import ChipEight.Proofs.Machine.Atomic
import ChipEight.Proofs.Machine.Burst

/-!
# Proofs/Emulator/Failing — what a slice of time that fails leaves behind

A slice fails before any step if what is due cannot be worked out, or at a step that fails.  Either
way its time has gone by, and that is all that has become of the pace: no tick is made, the buzzer is
not touched, and the counts are those of before the slice.

* `brokenOff` — an emulator whose slice has been broken off;
* `run_advance_of_failure` — a slice whose step fails, whatever the failure;
* `advanceBy_failure` — **a slice that fails** leaves the steps that ran, and nothing else.
-/

namespace ChipEight.Emulator

/-- **The emulator once a slice has been broken off**: its machine as the steps have left it, with the
lines they have printed, and its time counted as elapsed. -/
def brokenOff (e : Emulator) (time : Float) (machine : Machine) (lines : List String) : Emulator :=
  { e with
    machine
    pace := { e.pace with elapsed := e.pace.elapsed + time }
    host := (e.host.note (.advanced time)).noteAll (lines.map .printed) }

/-- What is due at the end of a slice cannot be worked out: one of the two counts is that of no
number, or of an infinite one. -/
def Unworkable (e : Emulator) (time : Float) (failure : Failure) : Prop :=
  (e.pace.wait time).stepsDue = .error failure ∨
    (∃ stepsDue, (e.pace.wait time).stepsDue = .ok stepsDue) ∧
      (e.pace.wait time).ticksDue = .error failure

variable {e : Emulator} {time : Float}

/-- A slice fails at once if what is due cannot be worked out. -/
theorem run_advance_of_unworkable {failure : Failure} (h : e.Unworkable time failure) :
    (advance time).run e = .error failure (e.brokenOff time e.machine []) := by
  rw [run_advance]
  rcases h with hsteps | ⟨⟨stepsDue, hsteps⟩, hticks⟩
  · rw [hsteps]
    rfl
  · rw [hsteps, hticks]
    rfl

/-- **A slice fails as the first step that runs no instruction fails**, and leaves the machine that
this step leaves. -/
theorem run_advance_of_failure {stepsDue ticksDue : Int} {k : Nat} {failure : Failure}
    (hdue : e.Owes time stepsDue ticksDue) (hk : k < (stepsDue - e.pace.stepsDone).toNat)
    (hall : e.machine.AllRun k) (hfails : (e.machine.stepped k).step.result = .error failure) :
    ∃ lines, (advance time).run e =
      .error failure (e.brokenOff time (e.machine.stepped k).step.machine lines) := by
  obtain ⟨hfailure, hmachine⟩ := Machine.burst_of_failure hk hall hfails
  refine ⟨(e.machine.burst (stepsDue - e.pace.stepsDone).toNat).printed.reverse, ?_⟩
  rw [run_advance, hdue.steps, hdue.ticks]
  simp only [hfailure]
  rw [afterBurst, waited, hmachine, Machine.stepped_succ]
  rfl

/-- A time with a double is a slice of that double. -/
theorem run_advanceBy_of_toFloat {seconds : Quantity} (h : seconds.toFloat = .ok time) :
    (advanceBy seconds).run e = (advance time).run e := by
  rw [advanceBy, EStateM.run_bind, h, run_attempt_ok]

/-- **A slice of time that fails** leaves an emulator that has been broken off.

If a step within the budget is a fault of the program, after steps that each ran an instruction, the
slice fails with this fault.  The machine is as those steps have left it, and stands on the word of
the fault, which is noted if it was fetched.  If what is due cannot be worked out, the machine is as
it was.  In both cases nothing else has changed but the time that has elapsed. -/
theorem advanceBy_failure {seconds : Quantity} (htime : seconds.toFloat = .ok time) :
    (∀ stepsDue ticksDue k fault, e.Owes time stepsDue ticksDue →
      k < (stepsDue - e.pace.stepsDone).toNat → e.machine.AllRun k →
      (e.machine.stepped k).step.result = .error (.machine fault) →
        let reached := e.machine.stepped k
        ∃ opcode lines, (reached.fetch = .ok opcode ∨ opcode = reached.opcode) ∧
          (advanceBy seconds).run e =
            .error (.machine fault) (e.brokenOff time (reached.fetched opcode) lines)) ∧
    (∀ failure, e.Unworkable time failure →
      (advanceBy seconds).run e = .error failure (e.brokenOff time e.machine [])) := by
  rw [run_advanceBy_of_toFloat htime]
  refine ⟨fun stepsDue ticksDue k fault hdue hk hall hfault => ?_, fun failure hfailure => ?_⟩
  · intro reached
    obtain ⟨lines, hrun⟩ := run_advance_of_failure hdue hk hall hfault
    rw [hrun]
    obtain ⟨-, ⟨hrange, hmachine⟩ | ⟨-, hmachine⟩⟩ := Machine.machine_step_of_fault hfault
    · rw [hmachine]
      exact ⟨_, lines, .inl (Machine.fetch_of_inRange hrange), rfl⟩
    · rw [hmachine]
      exact ⟨_, lines, .inr rfl, rfl⟩
  · exact run_advance_of_unworkable hfailure

/-- An emulator whose program sets the sound timer, and then returns from no call. -/
def faulting : Emulator := bare #[0x61, 0x05, 0xF1, 0x18, 0x00, 0xEE] 400

/-- The third of eight steps fails, in a slice in which a tick is due: the tick is not made, and the
buzzer stays off.  No step is made in a slice whose time is not a number. -/
theorem advanceBy_failure_third_step :
    (faulting.machine.stepped 2).timers = ⟨0, 5⟩ ∧
      (∃ opcode lines, (advanceBy (.real 0.02)).run faulting = .error (.machine .stackUnderflow)
        (faulting.brokenOff 0.02 ((faulting.machine.stepped 2).fetched opcode) lines)) ∧
      (advanceBy (.real (0.0 / 0.0))).run faulting =
        .error .timeNotANumber (faulting.brokenOff (0.0 / 0.0) faulting.machine []) := by
  have hdue : faulting.Owes 0.02 8 1 := ⟨by rfl, by rfl⟩
  have hall : faulting.machine.AllRun 2 := .succ (by rfl) (.succ (by rfl) (Machine.allRun_zero _))
  have hfault : (faulting.machine.stepped 2).step.result = .error (.machine .stackUnderflow) := by
    rfl
  have hnumber : faulting.Unworkable (0.0 / 0.0) .timeNotANumber := .inl (by rfl)
  have htime : (Quantity.real 0.02).toFloat = .ok 0.02 := rfl
  have htime' : (Quantity.real (0.0 / 0.0)).toFloat = .ok (0.0 / 0.0) := rfl
  obtain ⟨hfails, -⟩ := advanceBy_failure (e := faulting) htime
  obtain ⟨-, hunworkable⟩ := advanceBy_failure (e := faulting) htime'
  obtain ⟨opcode, lines, -, hrun⟩ := hfails 8 1 2 _ hdue (by decide) hall hfault
  exact ⟨by decide +kernel, ⟨opcode, lines, hrun⟩, hunworkable _ hnumber⟩

end ChipEight.Emulator
