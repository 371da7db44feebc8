import Mathlib.Algebra.GroupWithZero.Nat
import Mathlib.Algebra.Ring.Int.Defs
import Mathlib.Logic.Relation
import ChipEight.Proofs.Emulator.Advance
import ChipEight.Proofs.Emulator.Left

/-!
# Proofs/Emulator/TimerClock — the timers' clock does not follow the machine

The timers tick by the time that has elapsed.  Neither the program, nor its speed, nor the keys, nor
what the devices do in between make a difference, and no tick is lost or made up.

* `TimerClock.readings` — the clock on its own, slice after slice;
* `KeepsTime` — a clock whose ticks are those due for the time that has elapsed;
* `Driven` — a run of slices that succeed, with the devices served between them;
* `Driven.readings_eq` — the clock of a run is the clock on its own;
* `ticks_eq_of_driven` — **two runs over the same times tick alike**, and both keep time.
-/

namespace ChipEight

/-! ## The clock on its own -/

/-- The timers' clock: the time that has elapsed, and how many ticks it has made. -/
structure TimerClock where
  /-- Seconds since the start. -/
  elapsed : Float
  ticksDone : Int

namespace TimerClock

/-- The clock before any time has elapsed. -/
def start : TimerClock := ⟨0.0, 0⟩

/-- The clock some time later. -/
def advance (c : TimerClock) (seconds : Quantity) : Except Failure TimerClock := do
  let elapsed := c.elapsed + (← seconds.toFloat)
  return ⟨elapsed, ← due elapsed tickRate⟩

/-- What is seen of the clock at the end of a slice. -/
structure Reading where
  /-- The ticks of this slice. -/
  ticks : Int
  clock : TimerClock

/-- What is seen of the clock, slice after slice. -/
def readings (c : TimerClock) : List Quantity → Except Failure (List Reading)
  | [] => return []
  | seconds :: rest => do
    let next ← c.advance seconds
    return ⟨next.ticksDone - c.ticksDone, next⟩ :: (← next.readings rest)

/-- The times added to those before them, the earliest first. -/
def total (elapsed : Float) (times : List Quantity) : Except Failure Float :=
  times.foldlM (fun elapsed seconds => return elapsed + (← seconds.toFloat)) elapsed

/-- **A slice** adds its time, and makes the ticks that are then due. -/
theorem advance_eq_ok_iff {c next : TimerClock} {seconds : Quantity} :
    c.advance seconds = .ok next ↔
      ∃ time, seconds.toFloat = .ok time ∧ next.elapsed = c.elapsed + time ∧
        due next.elapsed tickRate = .ok next.ticksDone := by
  obtain ⟨elapsed, ticksDone⟩ := next
  rw [advance]
  rcases seconds.toFloat with failure | time
  · simp [bind, Except.bind]
  · rcases hdue : due (c.elapsed + time) tickRate with failure | ticksDue
    · simp +contextual [bind, Except.bind, hdue]
    · simp +contextual [bind, Except.bind, hdue, pure, Except.pure, eq_comm]

theorem readings_cons_eq_ok_iff {c : TimerClock} {seconds : Quantity} {rest : List Quantity}
    {seen : List Reading} :
    c.readings (seconds :: rest) = .ok seen ↔
      ∃ next others, c.advance seconds = .ok next ∧ next.readings rest = .ok others ∧
        seen = ⟨next.ticksDone - c.ticksDone, next⟩ :: others := by
  rw [readings]
  rcases c.advance seconds with failure | next
  · simp [bind, Except.bind]
  · rcases hrest : next.readings rest with failure | others
    · simp [bind, Except.bind, hrest]
    · simp [bind, Except.bind, hrest, pure, Except.pure, eq_comm]

/-! ## Keeping time -/

/-- **A clock keeps time** if after every slice the elapsed time is the sum of the times, and the
ticks made so far are those due for it. -/
structure KeepsTime (times : List Quantity) (seen : List Reading) : Prop where
  /-- The clock is seen after every slice. -/
  length_eq : seen.length = times.length
  /-- The elapsed time is the times up to here, added up. -/
  elapsed_eq : ∀ n (hn : n < seen.length),
    total 0.0 (times.take (n + 1)) = .ok seen[n].clock.elapsed
  /-- The count of ticks is what is due for the elapsed time. -/
  ticksDone_eq : ∀ r ∈ seen, truncate (r.clock.elapsed * 60.0 + 1e-9) = .ok r.clock.ticksDone
  /-- The count of ticks is the sum of those the slices up to here have made. -/
  sum_ticks : ∀ n (hn : n < seen.length),
    ((seen.take (n + 1)).map Reading.ticks).sum = seen[n].clock.ticksDone

section Readings

variable {c : TimerClock} {times : List Quantity} {seen : List Reading}

theorem length_readings (h : c.readings times = .ok seen) : seen.length = times.length := by
  induction times generalizing c seen with
  | nil =>
    obtain rfl := Except.ok.inj h
    rfl
  | cons seconds rest ih =>
    obtain ⟨next, others, -, hrest, rfl⟩ := readings_cons_eq_ok_iff.1 h
    rw [List.length_cons, List.length_cons, ih hrest]

/-- The elapsed time grows by the times, one after the other. -/
theorem total_readings (h : c.readings times = .ok seen) : ∀ n (hn : n < seen.length),
    total c.elapsed (times.take (n + 1)) = .ok seen[n].clock.elapsed := by
  induction times generalizing c seen with
  | nil =>
    obtain rfl := Except.ok.inj h
    exact fun n hn => nomatch hn
  | cons seconds rest ih =>
    obtain ⟨next, others, hadvance, hrest, rfl⟩ := readings_cons_eq_ok_iff.1 h
    obtain ⟨time, htime, helapsed, -⟩ := advance_eq_ok_iff.1 hadvance
    -- the first time is added first, so the rest is added to the clock after the first slice
    have hfirst (n : Nat) : total c.elapsed ((seconds :: rest).take (n + 1)) =
        total next.elapsed (rest.take n) := by
      rw [List.take_succ_cons, total, List.foldlM_cons, htime, helapsed]
      rfl
    intro n hn
    cases n with
    | zero => exact hfirst 0
    | succ n => exact (hfirst (n + 1)).trans (ih hrest n (Nat.lt_of_succ_lt_succ hn))

/-- What is due is done at the end of every slice. -/
theorem due_readings (h : c.readings times = .ok seen) :
    ∀ r ∈ seen, due r.clock.elapsed tickRate = .ok r.clock.ticksDone := by
  induction times generalizing c seen with
  | nil =>
    obtain rfl := Except.ok.inj h
    exact fun r hr => nomatch hr
  | cons seconds rest ih =>
    obtain ⟨next, others, hadvance, hrest, rfl⟩ := readings_cons_eq_ok_iff.1 h
    obtain ⟨time, -, -, hdue⟩ := advance_eq_ok_iff.1 hadvance
    intro r hr
    obtain rfl | hr := List.mem_cons.1 hr
    · exact hdue
    · exact ih hrest r hr

/-- The ticks of the slices add up to what the count of ticks has grown by. -/
theorem sum_ticks_readings (h : c.readings times = .ok seen) : ∀ n (hn : n < seen.length),
    c.ticksDone + ((seen.take (n + 1)).map Reading.ticks).sum = seen[n].clock.ticksDone := by
  induction times generalizing c seen with
  | nil =>
    obtain rfl := Except.ok.inj h
    exact fun n hn => nomatch hn
  | cons seconds rest ih =>
    obtain ⟨next, others, -, hrest, rfl⟩ := readings_cons_eq_ok_iff.1 h
    have hgrown : c.ticksDone + (next.ticksDone - c.ticksDone) = next.ticksDone := by omega
    intro n hn
    rw [List.take_succ_cons, List.map_cons, List.sum_cons, ← Int.add_assoc, hgrown]
    cases n with
    | zero => exact Int.add_zero _
    | succ n => exact ih hrest n (Nat.lt_of_succ_lt_succ hn)

/-- **The clock keeps time** from its start on. -/
theorem keepsTime_readings (h : start.readings times = .ok seen) : KeepsTime times seen where
  length_eq := length_readings h
  elapsed_eq := total_readings h
  ticksDone_eq := due_readings h
  sum_ticks n hn := by
    have hsum := sum_ticks_readings h n hn
    rwa [start, Int.zero_add] at hsum

end Readings

end TimerClock

namespace Emulator

/-! ## Runs of slices among the devices -/

/-- **What may happen between two slices of time**: keys go down or up, and the devices are
served. -/
inductive Errand : Emulator → Emulator → Prop where
  | keys (e : Emulator) (keypad : KeySet) : Errand e { e with machine := { e.machine with keypad } }
  | poll (e : Emulator) : Errand e (left (poll.run e))
  | refresh (e : Emulator) : Errand e (left (refreshDisplay.run e))
  | report (e : Emulator) : Errand e (left (reportPerformance.run e))
  | buzzer (e : Emulator) : Errand e (left (updateBuzzer.run e))

/-- A slice of time that succeeded. -/
structure Call where
  /-- The instructions it ran. -/
  ops : Nat
  /-- The ticks it made. -/
  ticks : Int
  /-- The emulator at its end. -/
  after : Emulator

/-- **A run of slices**, each of which succeeds, with any errands before them. -/
inductive Driven : Emulator → List Quantity → List Call → Prop where
  /-- No time goes by. -/
  | nil (e : Emulator) : Driven e [] []
  /-- Errands and a slice, and others after it. -/
  | cons {e ready : Emulator} {seconds : Quantity} {rest : List Quantity} {call : Call}
    {others : List Call} (herrands : Relation.ReflTransGen Errand e ready)
    (hcall : (advanceBy seconds).run ready = .ok (call.ops, call.ticks) call.after)
    (hrest : Driven call.after rest others) :
    Driven e (seconds :: rest) (call :: others)

/-- The clock as an emulator keeps it. -/
def timerClock (e : Emulator) : TimerClock := ⟨e.pace.elapsed, e.pace.ticksDone⟩

/-- What a slice shows of the clock: the ticks it returns, and the clock at its end. -/
def Call.reading (call : Call) : TimerClock.Reading := ⟨call.ticks, call.after.timerClock⟩

/-! ## What becomes of the clock -/

/-- A pace starts with the clock at its start, at any speed. -/
theorem timerClock_of_start {e : Emulator} {speed : Option Quantity}
    (h : Pace.start speed = .ok e.pace) : e.timerClock = .start := by
  rw [Pace.start] at h
  split at h
  · nomatch h
  · rw [timerClock, ← Except.ok.inj h]
    rfl

/-- **No errand touches the clock.** -/
theorem Errand.timerClock_eq {e e' : Emulator} (h : Errand e e') :
    e'.timerClock = e.timerClock := by
  cases h with
  | keys keypad => rfl
  | poll =>
    obtain ⟨input, keypad, host, hleft, -⟩ := left_poll e
    rw [hleft]
    rfl
  | refresh => rfl
  | report => rfl
  | buzzer =>
    rw [run_updateBuzzer, left_ok, timerClock, elapsed_buzzed, ticksDone_buzzed]
    rfl

theorem timerClock_eq_of_errands {e e' : Emulator} (h : Relation.ReflTransGen Errand e e') :
    e'.timerClock = e.timerClock := by
  induction h with
  | refl => rfl
  | tail _ hlast ih => rw [hlast.timerClock_eq, ih]

/-- **A slice moves the clock on by its time**, and its ticks are those the clock makes. -/
theorem timerClock_of_advanceBy {e next : Emulator} {seconds : Quantity} {ops : Nat} {ticks : Int}
    (h : (advanceBy seconds).run e = .ok (ops, ticks) next) :
    e.timerClock.advance seconds = .ok next.timerClock ∧
      ticks = next.timerClock.ticksDone - e.timerClock.ticksDone := by
  obtain ⟨time, htime, hadvance⟩ := run_advanceBy_eq_ok_iff.1 h
  obtain ⟨stepsDue, ticksDue, -, hticks, -, hdone, rfl⟩ := run_advance_eq_ok_iff.1 hadvance
  obtain ⟨-, rfl⟩ := Prod.mk.inj hdone
  constructor
  · refine TimerClock.advance_eq_ok_iff.2 ⟨time, htime, elapsed_advanced e time _ _, ?_⟩
    rw [timerClock, elapsed_advanced, ticksDone_advanced]
    exact hticks
  · rw [timerClock, ticksDone_advanced, timerClock]

/-- **The clock of a run is the clock on its own**: it can be told from the times. -/
theorem Driven.readings_eq {e : Emulator} {times : List Quantity} {calls : List Call}
    (h : Driven e times calls) :
    e.timerClock.readings times = .ok (calls.map Call.reading) := by
  induction h with
  | nil e => rfl
  | cons herrands hcall hrest ih =>
    obtain ⟨hadvance, hticks⟩ := timerClock_of_advanceBy hcall
    rw [timerClock_eq_of_errands herrands] at hadvance hticks
    refine TimerClock.readings_cons_eq_ok_iff.2 ⟨_, _, hadvance, ih, ?_⟩
    rw [List.map_cons, Call.reading, hticks]

/-- **The timers' clock does not follow the machine.**  Two emulators that start at any speeds, with
any programs, keys, random bytes and devices, and are driven over the same times, return the same
ticks at every slice and keep the same elapsed time and count of ticks after it; and that clock keeps
time. -/
theorem ticks_eq_of_driven {e e' : Emulator} {speed speed' : Option Quantity}
    {times : List Quantity} {calls calls' : List Call} (hstart : Pace.start speed = .ok e.pace)
    (hstart' : Pace.start speed' = .ok e'.pace) (h : Driven e times calls)
    (h' : Driven e' times calls') :
    calls.map Call.reading = calls'.map Call.reading ∧
      TimerClock.KeepsTime times (calls.map Call.reading) ∧
      TimerClock.KeepsTime times (calls'.map Call.reading) := by
  have hseen := h.readings_eq
  have hseen' := h'.readings_eq
  rw [timerClock_of_start hstart] at hseen
  rw [timerClock_of_start hstart'] at hseen'
  exact ⟨Except.ok.inj (hseen.symm.trans hseen'), TimerClock.keepsTime_readings hseen,
    TimerClock.keepsTime_readings hseen'⟩

/-- A machine in memory that is all program, with a pace and without devices. -/
def bare (program : Array UInt8) (speed : Int) : Emulator where
  machine := { Machine.ofParts ⟨program⟩ (.empty 16) .display [] false with pc := 0 }
  pace := ⟨.whole speed, 0.0, 0, 0, false, 0, 0⟩
  input := .none
  display := ⟨.whole 1, 0, .none⟩
  sound := ⟨.silent, false⟩
  host := .quiet

/-- A slice of a run, from what is due at its end. -/
theorem Driven.cons_of_due {e ready : Emulator} {time : Float} {rest : List Quantity}
    {others : List Call} (herrands : Relation.ReflTransGen Errand e ready) (stepsDue ticksDue : Int)
    (hsteps : (ready.pace.wait time).stepsDue = .ok stepsDue)
    (hticks : (ready.pace.wait time).ticksDue = .ok ticksDue)
    (hburst : (ready.machine.burst (stepsDue - ready.pace.stepsDone).toNat).failure = none)
    (hrest : Driven (ready.advanced time stepsDue ticksDue) rest others) :
    Driven e (.real time :: rest)
      (⟨(ready.machine.burst (stepsDue - ready.pace.stepsDone).toNat).ops,
        ticksDue - ready.pace.ticksDone, ready.advanced time stepsDue ticksDue⟩ :: others) :=
  .cons herrands (run_advanceBy_eq_ok_iff.2 ⟨time, rfl, run_advance_eq_ok_iff.2
    ⟨stepsDue, ticksDue, hsteps, hticks, hburst, rfl, rfl⟩⟩) hrest

/-- A program that jumps in place at four hundred instructions a second, and one that waits for a key
at seven hundred, over more than a tick forwards and then half a tick back. -/
theorem ticks_eq_of_driven_waiting :
    ∃ calls calls',
      Driven (bare #[0x10, 0x00] 400) [.real 0.02, .real (-0.01)] calls ∧
      Driven (bare #[0xF0, 0x0A] 700) [.real 0.02, .real (-0.01)] calls' ∧
      calls.map Call.ops = [8, 0] ∧ calls'.map Call.ops = [1, 0] ∧
      calls.map Call.ticks = [1, -1] ∧ calls.map Call.reading = calls'.map Call.reading := by
  have hrun : ∃ calls, Driven (bare #[0x10, 0x00] 400) [.real 0.02, .real (-0.01)] calls ∧
      calls.map Call.ops = [8, 0] ∧ calls.map Call.ticks = [1, -1] := by
    refine ⟨_, .cons_of_due .refl 8 1 (by rfl) (by rfl) (by decide +kernel) <|
      .cons_of_due .refl 4 0 ?_ ?_ (by decide +kernel) (.nil _), by decide +kernel,
      by decide +kernel⟩
    · rw [Pace.stepsDue, Pace.wait, elapsed_advanced, speed_advanced]
      rfl
    · rw [Pace.ticksDue, Pace.wait, elapsed_advanced]
      rfl
  have hrun' : ∃ calls, Driven (bare #[0xF0, 0x0A] 700) [.real 0.02, .real (-0.01)] calls ∧
      calls.map Call.ops = [1, 0] := by
    refine ⟨_, .cons_of_due .refl 14 1 (by rfl) (by rfl) (by decide +kernel) <|
      .cons_of_due (.single (.keys _ (KeySet.empty.insert 5))) 7 0 ?_ ?_ (by decide +kernel)
        (.nil _), by decide +kernel⟩
    · rw [Pace.stepsDue, Pace.wait, elapsed_advanced, speed_advanced]
      rfl
    · rw [Pace.ticksDue, Pace.wait, elapsed_advanced]
      rfl
  obtain ⟨calls, hcalls, hops, hticks⟩ := hrun
  obtain ⟨calls', hcalls', hops'⟩ := hrun'
  have hstart : Pace.start (some (.whole 400)) = .ok (bare #[0x10, 0x00] 400).pace := rfl
  have hstart' : Pace.start (some (.whole 700)) = .ok (bare #[0xF0, 0x0A] 700).pace := rfl
  obtain ⟨hreading, -, -⟩ := ticks_eq_of_driven hstart hstart' hcalls hcalls'
  exact ⟨calls, calls', hcalls, hcalls', hops, hops', hticks, hreading⟩

end Emulator

end ChipEight
