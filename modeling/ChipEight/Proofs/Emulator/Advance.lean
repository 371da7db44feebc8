import ChipEight.Emulator.Advance

/-!
# Proofs/Emulator/Advance — what a slice of time leaves behind

A slice of time succeeds if both counts that are due can be worked out and no step fails.  It then
leaves the emulator with its burst run, its timers ticked, its counts brought up to what is due, and
the buzzer as the timers have it.

* `run_runSteps`, `run_updateBuzzer` — the parts of a slice that can fail, or have a choice;
* `run_advance_eq_ok_iff` — **when a slice succeeds, and with what**;
* `Owes` — what is due at the end of a slice;
* `run_advanceBy_eq_ok_iff` — a slice of a time that may be a whole number;
* `Slices` — a run of slices that succeed, each of which has a property.
-/

namespace ChipEight.Emulator

/-! ## The parts of a slice -/

/-- The emulator once a slice has begun: its time counts as elapsed. -/
def waited (e : Emulator) (seconds : Float) : Emulator :=
  { e with pace := e.pace.wait seconds, host := e.host.note (.advanced seconds) }

/-- The emulator after a burst of its machine. -/
def afterBurst (e : Emulator) (budget : Nat) : Emulator :=
  let b := e.machine.burst budget
  { e with machine := b.machine, host := e.host.noteAll (b.printed.reverse.map .printed) }

/-- The emulator once its timers have ticked and its counts are what is due. -/
def caughtUp (e : Emulator) (stepsDue ticksDue : Int) : Emulator :=
  { e with
    machine := { e.machine with
      timers := e.machine.timers.ticks (ticksDue - e.pace.ticksDone).toNat }
    pace := { e.pace with stepsDone := stepsDue, ticksDone := ticksDue } }

/-- The emulator with the buzzer as the timers have it. -/
def buzzed (e : Emulator) : Emulator :=
  let sounding := e.machine.timers.isSounding
  if sounding ≠ e.pace.buzzer then
    let (sound, calls) := e.sound.enable sounding
    { e with
      sound
      pace := { e.pace with buzzer := sounding }
      host := (e.host.note (.buzzer sounding)).noteAll (calls.map .soundCall) }
  else e

/-- The emulator with instructions counted for the next report. -/
def counted (e : Emulator) (ops : Nat) : Emulator :=
  { e with pace := { e.pace with ops := e.pace.ops + ops } }

/-- The emulator after a slice of time at whose end so much is due. -/
def advanced (e : Emulator) (seconds : Float) (stepsDue ticksDue : Int) : Emulator :=
  let budget := (stepsDue - e.pace.stepsDone).toNat
  (((e.waited seconds).afterBurst budget).caughtUp stepsDue ticksDue).buzzed.counted
    (e.machine.burst budget).ops

theorem run_runSteps (e : Emulator) (budget : Nat) :
    (runSteps budget).run e =
      match (e.machine.burst budget).failure with
      | some failure => .error failure (e.afterBurst budget)
      | none => .ok (e.machine.burst budget).ops (e.afterBurst budget) := by
  simp only [runSteps, EStateM.run_bind, EStateM.run_get, EStateM.run_modify]
  cases (e.machine.burst budget).failure <;> rfl

theorem run_updateBuzzer (e : Emulator) : updateBuzzer.run e = .ok () e.buzzed := by
  simp only [updateBuzzer, EStateM.run_bind, EStateM.run_get, buzzed]
  split <;> rfl

/-! ## What is left in the end -/

@[simp] theorem machine_buzzed (e : Emulator) : e.buzzed.machine = e.machine := by
  rw [buzzed]
  split <;> rfl

@[simp] theorem stepsDone_buzzed (e : Emulator) : e.buzzed.pace.stepsDone = e.pace.stepsDone := by
  rw [buzzed]
  split <;> rfl

@[simp] theorem ticksDone_buzzed (e : Emulator) : e.buzzed.pace.ticksDone = e.pace.ticksDone := by
  rw [buzzed]
  split <;> rfl

@[simp] theorem elapsed_buzzed (e : Emulator) : e.buzzed.pace.elapsed = e.pace.elapsed := by
  rw [buzzed]
  split <;> rfl

@[simp] theorem speed_buzzed (e : Emulator) : e.buzzed.pace.speed = e.pace.speed := by
  rw [buzzed]
  split <;> rfl

section Advanced

variable (e : Emulator) (seconds : Float) (stepsDue ticksDue : Int)

/-- The timers tick after the burst. -/
theorem machine_advanced :
    (e.advanced seconds stepsDue ticksDue).machine =
      let next := (e.machine.burst (stepsDue - e.pace.stepsDone).toNat).machine
      { next with timers := next.timers.ticks (ticksDue - e.pace.ticksDone).toNat } := by
  simp only [advanced, counted, machine_buzzed]
  rfl

@[simp] theorem stepsDone_advanced :
    (e.advanced seconds stepsDue ticksDue).pace.stepsDone = stepsDue := by
  simp only [advanced, counted, stepsDone_buzzed, caughtUp]

@[simp] theorem ticksDone_advanced :
    (e.advanced seconds stepsDue ticksDue).pace.ticksDone = ticksDue := by
  simp only [advanced, counted, ticksDone_buzzed, caughtUp]

@[simp] theorem elapsed_advanced :
    (e.advanced seconds stepsDue ticksDue).pace.elapsed = e.pace.elapsed + seconds := by
  simp only [advanced, counted, elapsed_buzzed]
  rfl

@[simp] theorem speed_advanced :
    (e.advanced seconds stepsDue ticksDue).pace.speed = e.pace.speed := by
  simp only [advanced, counted, speed_buzzed]
  rfl

end Advanced

/-! ## A slice -/

/-- **A slice of time in every case.** -/
theorem run_advance (e : Emulator) (seconds : Float) :
    (advance seconds).run e =
      match (e.pace.wait seconds).stepsDue with
      | .error failure => .error failure (e.waited seconds)
      | .ok stepsDue =>
        match (e.pace.wait seconds).ticksDue with
        | .error failure => .error failure (e.waited seconds)
        | .ok ticksDue =>
          let budget := (stepsDue - e.pace.stepsDone).toNat
          match (e.machine.burst budget).failure with
          | some failure => .error failure ((e.waited seconds).afterBurst budget)
          | none =>
            .ok ((e.machine.burst budget).ops, ticksDue - e.pace.ticksDone)
              (e.advanced seconds stepsDue ticksDue) := by
  simp only [advance, note, modifyHost, modifyPace, modifyMachine, EStateM.run_bind,
    EStateM.run_modify, EStateM.run_get]
  rcases hsteps : (e.pace.wait seconds).stepsDue with failure | stepsDue
  · simp only [run_attempt_error, waited]
  · rcases hticks : (e.pace.wait seconds).ticksDue with failure | ticksDue
    · simp only [run_attempt_ok, run_attempt_error, waited]
    · simp only [run_attempt_ok, run_runSteps, run_updateBuzzer]
      rw [Pace.stepsDone_wait, Pace.ticksDone_wait]
      cases (e.machine.burst (stepsDue - e.pace.stepsDone).toNat).failure <;> rfl

/-- **A slice succeeds** if both counts can be worked out and no step fails. -/
theorem run_advance_eq_ok_iff {e next : Emulator} {seconds : Float} {done : Nat × Int} :
    (advance seconds).run e = .ok done next ↔
      ∃ stepsDue ticksDue, (e.pace.wait seconds).stepsDue = .ok stepsDue ∧
        (e.pace.wait seconds).ticksDue = .ok ticksDue ∧
        (e.machine.burst (stepsDue - e.pace.stepsDone).toNat).failure = none ∧
        done = ((e.machine.burst (stepsDue - e.pace.stepsDone).toNat).ops,
          ticksDue - e.pace.ticksDone) ∧
        next = e.advanced seconds stepsDue ticksDue := by
  rw [run_advance]
  constructor
  · intro h
    rcases hsteps : (e.pace.wait seconds).stepsDue with failure | stepsDue
    · rw [hsteps] at h
      nomatch h
    rcases hticks : (e.pace.wait seconds).ticksDue with failure | ticksDue
    · rw [hsteps, hticks] at h
      nomatch h
    rcases hfailure : (e.machine.burst (stepsDue - e.pace.stepsDone).toNat).failure with _ | failure
    · simp only [hsteps, hticks, hfailure] at h
      obtain ⟨rfl, rfl⟩ := EStateM.Result.ok.inj h
      exact ⟨stepsDue, ticksDue, rfl, rfl, hfailure, rfl, rfl⟩
    · simp only [hsteps, hticks, hfailure] at h
      nomatch h
  · rintro ⟨stepsDue, ticksDue, hsteps, hticks, hfailure, rfl, rfl⟩
    simp only [hsteps, hticks, hfailure]

/-- **What is due at the end of a slice**, where both counts can be worked out. -/
structure Owes (e : Emulator) (time : Float) (stepsDue ticksDue : Int) : Prop where
  steps : (e.pace.wait time).stepsDue = .ok stepsDue
  ticks : (e.pace.wait time).ticksDue = .ok ticksDue

/-- A slice whose time is a number with a double. -/
theorem run_advanceBy_eq_ok_iff {e next : Emulator} {seconds : Quantity} {done : Nat × Int} :
    (advanceBy seconds).run e = .ok done next ↔
      ∃ time, seconds.toFloat = .ok time ∧ (advance time).run e = .ok done next := by
  rw [advanceBy, EStateM.run_bind]
  rcases seconds.toFloat with failure | time
  · simp
  · simp

/-- A slice for which both counts can be worked out succeeds if its burst does not fail. -/
theorem run_advanceBy_of_owes {e : Emulator} {seconds : Quantity} {time : Float}
    {stepsDue ticksDue : Int} (htime : seconds.toFloat = .ok time)
    (hdue : e.Owes time stepsDue ticksDue)
    (hfailure : (e.machine.burst (stepsDue - e.pace.stepsDone).toNat).failure = none) :
    (advanceBy seconds).run e =
      .ok ((e.machine.burst (stepsDue - e.pace.stepsDone).toNat).ops, ticksDue - e.pace.ticksDone)
        (e.advanced time stepsDue ticksDue) :=
  run_advanceBy_eq_ok_iff.2 ⟨time, htime, run_advance_eq_ok_iff.2
    ⟨stepsDue, ticksDue, hdue.steps, hdue.ticks, hfailure, rfl, rfl⟩⟩

/-! ## Runs of slices -/

/-- **A run of slices**, each of which succeeds and has a property, with what they returned. -/
inductive Slices (P : Emulator → Nat × Int → Emulator → Prop) :
    Emulator → List Quantity → List (Nat × Int) → Emulator → Prop where
  /-- No time goes by. -/
  | nil (e : Emulator) : Slices P e [] [] e
  /-- A slice, and others after it. -/
  | cons {e next last : Emulator} {seconds : Quantity} {rest : List Quantity} {done : Nat × Int}
    {others : List (Nat × Int)} (hcall : (advanceBy seconds).run e = .ok done next)
    (hslice : P e done next) (hrest : Slices P next rest others last) :
    Slices P e (seconds :: rest) (done :: others) last

end ChipEight.Emulator
