import Mathlib.Algebra.Order.BigOperators.Group.List
import Mathlib.Algebra.Order.Group.Nat
import ChipEight.Proofs.Emulator.TimerClock
import ChipEight.Proofs.Machine.Burst

/-!
# Proofs/Emulator/Budget — how a slice of time spends its steps

The steps that are due and not done are the budget of a slice.  It makes steps until the budget is
spent or one of them waits, and only then the ticks.  What is due counts as done however many steps
were made, so a step that is dropped is dropped for good.

* `Spends` — what a slice that does not fail makes of its budget;
* `Slice`, `Accounts` — slices that succeed, each going on with the counts of the one before;
* `Slice.ops_eq_budget_iff` — a slice runs as many instructions as its budget if every step runs one;
* `advance_spends` — **a slice spends its budget**, and over a run of slices no more instructions run
  than have been due.
-/

namespace ChipEight.Emulator

/-! ## One slice -/

/-- The steps that are due and not done. -/
def budget (e : Emulator) (stepsDue : Int) : Nat := (stepsDue - e.pace.stepsDone).toNat

/-- **How many steps a slice makes** that runs `ops` instructions: as many if the budget is spent, and
one more if that step waits. -/
inductive Makes (m : Machine) (budget ops : Nat) : Nat → Prop where
  /-- The budget is spent. -/
  | all (h : ops = budget) : Makes m budget ops ops
  /-- A step waits, and the rest of the budget is dropped. -/
  | upToWait (h : ops < budget) (hwaits : (m.stepped ops).step.result = .ok false) :
    Makes m budget ops (ops + 1)

/-- A timer some ticks later; a number of ticks below zero is none. -/
def lowered (timer : UInt8) (ticks : Int) : Int := max 0 ((timer.toNat : Int) - max ticks 0)

/-- **What a slice leaves that has run `ops` instructions.** -/
structure Spends (e : Emulator) (time : Float) (stepsDue ticksDue : Int) (ops : Nat)
    (next : Emulator) : Prop where
  /-- The first steps each ran an instruction. -/
  ran : e.machine.AllRun ops
  /-- The machine is as the steps left it, and then the timers have ticked. -/
  machine : ∃ steps, Makes e.machine (e.budget stepsDue) ops steps ∧
    next.machine = { e.machine.stepped steps with timers := next.machine.timers } ∧
    next.machine.timers.delay.toNat =
      lowered (e.machine.stepped steps).timers.delay (ticksDue - e.pace.ticksDone) ∧
    next.machine.timers.sound.toNat =
      lowered (e.machine.stepped steps).timers.sound (ticksDue - e.pace.ticksDone)
  /-- What is due is done, and the instructions have been counted. -/
  pace : next.pace = { e.pace with
    elapsed := e.pace.elapsed + time
    stepsDone := stepsDue
    ticksDone := ticksDue
    buzzer := next.machine.timers.isSounding
    ops := e.pace.ops + ops }

theorem toNat_ticks_delay (t : Timers) (ticks : Int) :
    ((t.ticks ticks.toNat).delay.toNat : Int) = lowered t.delay ticks := by
  rw [Timers.toNat_ticks_delay, lowered]
  omega

theorem toNat_ticks_sound (t : Timers) (ticks : Int) :
    ((t.ticks ticks.toNat).sound.toNat : Int) = lowered t.sound ticks := by
  rw [Timers.toNat_ticks_sound, lowered]
  omega

/-- The buzzer is told what the timers have it do, if it was told otherwise. -/
theorem pace_buzzed (e : Emulator) :
    e.buzzed.pace = { e.pace with buzzer := e.machine.timers.isSounding } := by
  rw [buzzed]
  split
  · rfl
  · next h => rw [Decidable.not_not.1 h]

theorem pace_advanced (e : Emulator) (time : Float) (stepsDue ticksDue : Int) :
    (e.advanced time stepsDue ticksDue).pace = { e.pace with
      elapsed := e.pace.elapsed + time
      stepsDone := stepsDue
      ticksDone := ticksDue
      buzzer := (e.advanced time stepsDue ticksDue).machine.timers.isSounding
      ops := e.pace.ops + (e.machine.burst (e.budget stepsDue)).ops } := by
  simp only [advanced, counted, pace_buzzed, machine_buzzed]
  rfl

/-- A burst that does not fail is as its steps have left it. -/
theorem makes_of_burst {m : Machine} {budget : Nat} (h : (m.burst budget).failure = none) :
    ∃ steps, Makes m budget (m.burst budget).ops steps ∧
      (m.burst budget).machine = m.stepped steps := by
  cases (Machine.burst_ends m budget).2 with
  | spent hops hmachine => exact ⟨_, .all hops, hmachine⟩
  | waits hops hwaits hmachine => exact ⟨_, .upToWait hops hwaits, hmachine⟩
  | fails failure hops hresult hmachine hfailure =>
    rw [hfailure] at h
    nomatch h

/-- **A slice spends its budget**, and the ticks come after all the steps. -/
theorem spends_advanced {e : Emulator} {time : Float} {stepsDue ticksDue : Int}
    (h : (e.machine.burst (e.budget stepsDue)).failure = none) :
    e.Spends time stepsDue ticksDue (e.machine.burst (e.budget stepsDue)).ops
      (e.advanced time stepsDue ticksDue) where
  ran := (Machine.burst_ends _ _).1
  machine := by
    obtain ⟨steps, hmakes, hmachine⟩ := makes_of_burst h
    have hnext : (e.advanced time stepsDue ticksDue).machine =
        let last := (e.machine.burst (e.budget stepsDue)).machine
        { last with timers := last.timers.ticks (ticksDue - e.pace.ticksDone).toNat } :=
      machine_advanced e time stepsDue ticksDue
    rw [hmachine] at hnext
    rw [hnext]
    exact ⟨steps, hmakes, rfl, toNat_ticks_delay _ _, toNat_ticks_sound _ _⟩
  pace := pace_advanced e time stepsDue ticksDue

/-! ## Slice after slice -/

/-- A slice of time that succeeded. -/
structure Slice where
  before : Emulator
  seconds : Quantity
  /-- The instructions it ran. -/
  ops : Nat
  /-- The ticks it made. -/
  ticks : Int
  after : Emulator
  succeeds : (advanceBy seconds).run before = .ok (ops, ticks) after

/-- **A run of slices**, from a count of steps done to another.  Anything may happen to the machine
and its devices between two slices, as long as the count is left alone. -/
inductive Accounts : Int → List Slice → Int → Prop where
  | nil (stepsDone : Int) : Accounts stepsDone [] stepsDone
  | cons (s : Slice) {rest : List Slice} {last : Int}
    (hrest : Accounts s.after.pace.stepsDone rest last) :
    Accounts s.before.pace.stepsDone (s :: rest) last

namespace Slice

/-- The steps that were due and not done. -/
def budget (s : Slice) : Nat := s.before.budget s.after.pace.stepsDone

/-- A slice that succeeded ran its burst. -/
theorem ops_eq (s : Slice) : s.ops = (s.before.machine.burst s.budget).ops := by
  obtain ⟨time, -, hrun⟩ := run_advanceBy_eq_ok_iff.1 s.succeeds
  obtain ⟨stepsDue, ticksDue, -, -, -, hdone, hafter⟩ := run_advance_eq_ok_iff.1 hrun
  rw [budget, hafter, stepsDone_advanced]
  exact (Prod.mk.inj hdone).1

theorem ops_le_budget (s : Slice) : s.ops ≤ s.budget := by
  rw [ops_eq]
  exact Machine.ops_burst_le _ _

/-- **A slice runs as many instructions as its budget** exactly if every step of the budget runs
one. -/
theorem ops_eq_budget_iff (s : Slice) :
    s.ops = s.budget ↔ s.before.machine.AllRun s.budget := by
  rw [ops_eq]
  exact Machine.ops_burst_eq_iff

end Slice

/-- The budgets add up to what the count of steps has grown by. -/
theorem Accounts.sum_budget {first last : Int} {slices : List Slice}
    (h : Accounts first slices last)
    (hmono : ∀ s ∈ slices, s.before.pace.stepsDone ≤ s.after.pace.stepsDone) :
    first + ((slices.map Slice.budget).sum : Nat) = last := by
  induction h with
  | nil stepsDone => exact Int.add_zero _
  | cons s hrest ih =>
    have hle := hmono s List.mem_cons_self
    have hgrown := ih fun s' hs' => hmono s' (List.mem_cons_of_mem s hs')
    rw [List.map_cons, List.sum_cons, Slice.budget, Emulator.budget]
    omega

/-- Some slices run no more instructions than their budgets together, and as many only if each of
them does. -/
theorem sum_ops_le (slices : List Slice) :
    (slices.map Slice.ops).sum ≤ (slices.map Slice.budget).sum ∧
      ((slices.map Slice.ops).sum = (slices.map Slice.budget).sum ↔
        ∀ s ∈ slices, s.ops = s.budget) := by
  have hle : ∀ s ∈ slices, s.ops ≤ s.budget := fun s _ => s.ops_le_budget
  refine ⟨List.sum_le_sum hle, fun heq s hs => ?_, fun h => ?_⟩
  · by_contra hne
    have hlt := List.sum_lt_sum _ _ hle ⟨s, hs, Nat.lt_of_le_of_ne (hle s hs) hne⟩
    exact Nat.ne_of_lt hlt heq
  · rw [List.map_congr_left h]

/-! ## The law of the budget -/

/-- **A slice of time spends its budget.**  If both counts that are due can be worked out, and no step
that it comes to fails, it succeeds; it makes steps until the budget is spent or one waits, and then
the ticks that are due; it returns how many instructions ran and how many ticks were due.

Over a run of slices from the start, in which no less is ever due than was done, no more instructions
run than have been due, and as many exactly if every step of every budget ran one. -/
theorem advance_spends :
    (∀ {e : Emulator} {seconds : Quantity} {time : Float} {stepsDue ticksDue : Int},
      seconds.toFloat = .ok time → e.Owes time stepsDue ticksDue →
      (∀ k < e.budget stepsDue, e.machine.AllRun k →
        ∀ failure, (e.machine.stepped k).step.result ≠ .error failure) →
      ∃ ops next, (advanceBy seconds).run e = .ok (ops, ticksDue - e.pace.ticksDone) next ∧
        e.Spends time stepsDue ticksDue ops next) ∧
    (∀ {speed : Option Quantity} {pace : Pace} {slices : List Slice} {last : Int},
      Pace.start speed = .ok pace → Accounts pace.stepsDone slices last →
      (∀ s ∈ slices, s.before.pace.stepsDone ≤ s.after.pace.stepsDone) →
      ((slices.map Slice.ops).sum : Nat) ≤ last ∧
        (((slices.map Slice.ops).sum : Nat) = last ↔
          ∀ s ∈ slices, s.before.machine.AllRun s.budget)) := by
  constructor
  · intro e seconds time stepsDue ticksDue htime hdue hruns
    have hfailure := Machine.failure_burst_eq_none_iff.2 hruns
    exact ⟨_, _, run_advanceBy_of_owes htime hdue hfailure, spends_advanced hfailure⟩
  · intro speed pace slices last hstart hrun hmono
    have hzero : pace.stepsDone = 0 := by
      rw [Pace.start] at hstart
      split at hstart
      · cases hstart
      · rw [← Except.ok.inj hstart]
    have hsum := hrun.sum_budget hmono
    obtain ⟨hle, hiff⟩ := sum_ops_le slices
    rw [hzero, Int.zero_add] at hsum
    rw [← hsum, Int.ofNat_le, Int.natCast_inj, hiff]
    exact ⟨hle, forall₂_congr fun s _ => s.ops_eq_budget_iff⟩

/-- An emulator whose program sets the delay timer and then waits for a key. -/
def awaiting : Emulator := bare #[0x61, 0x05, 0xF1, 0x15, 0xF0, 0x0A] 400

/-- Of eight steps that are due, three run an instruction, the fourth waits, and four are dropped; of
the two that are due next, the first waits. -/
theorem advance_spends_waiting :
    ∃ first second : Slice, first.before = awaiting ∧ second.before = first.after ∧
      awaiting.Spends 0.02 8 1 3 first.after ∧
      Accounts 0 [first, second] 10 ∧ [first, second].map Slice.ops = [3, 0] ∧
      (([first, second].map Slice.ops).sum : Nat) ≤ (10 : Int) ∧
      ¬∀ s ∈ [first, second], s.before.machine.AllRun s.budget := by
  have hdue : awaiting.Owes 0.02 8 1 := ⟨by rfl, by rfl⟩
  have hfailure : (awaiting.machine.burst 8).failure = none := by decide +kernel
  have hcall : (advanceBy (.real 0.02)).run awaiting = .ok (3, 1) (awaiting.advanced 0.02 8 1) := by
    have hops : (awaiting.machine.burst 8).ops = 3 := by decide +kernel
    rw [run_advanceBy_of_owes rfl hdue hfailure, ← hops]
    rfl
  have hdue' : (awaiting.advanced 0.02 8 1).Owes 0.005 10 1 := by
    constructor
    · rw [Pace.stepsDue, Pace.wait, elapsed_advanced, speed_advanced]
      rfl
    · rw [Pace.ticksDue, Pace.wait, elapsed_advanced]
      rfl
  have htime' : (Quantity.real 0.005).toFloat = .ok 0.005 := rfl
  have hcall' := run_advanceBy_of_owes htime' hdue' (by decide +kernel)
  have hops' : ((awaiting.advanced 0.02 8 1).machine.burst 2).ops = 0 := by decide +kernel
  let first : Slice := ⟨_, _, _, _, _, hcall⟩
  let second : Slice := ⟨_, _, _, _, _, hcall'⟩
  have hrun : Accounts 0 [first, second] second.after.pace.stepsDone :=
    .cons first (.cons second (.nil _))
  have hmono : ∀ s ∈ [first, second], s.before.pace.stepsDone ≤ s.after.pace.stepsDone := by
    simp [first, second, awaiting, bare]
  have hran : [first, second].map Slice.ops = [3, 0] := by
    simp [first, second, hops']
  rw [stepsDone_advanced] at hrun
  obtain ⟨hspends, htotal⟩ := advance_spends
  have hstart : Pace.start none = .ok awaiting.pace := by rfl
  obtain ⟨hle, heq⟩ := htotal hstart hrun hmono
  refine ⟨first, second, rfl, rfl, ?_, hrun, hran, hle, mt heq.2 (by simp [hran])⟩
  have htime : (Quantity.real 0.02).toFloat = .ok 0.02 := rfl
  obtain ⟨ops, next, hspent, hspends⟩ :=
    hspends htime hdue (Machine.failure_burst_eq_none_iff.1 hfailure)
  obtain ⟨hdone, rfl⟩ := EStateM.Result.ok.inj (hspent.symm.trans hcall)
  obtain ⟨rfl, -⟩ := Prod.mk.inj hdone
  exact hspends

end ChipEight.Emulator
