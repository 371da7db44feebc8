import Mathlib.Algebra.GroupWithZero.Nat
import Mathlib.Algebra.Ring.Int.Defs
import ChipEight.Proofs.Emulator.Advance
import ChipEight.Proofs.Machine.Untimed

/-!
# Proofs/Emulator/Slicing — how time is sliced makes no difference

As long as no count falls and only untimed instructions run, a slice takes the machine as many
instructions and ticks on as its counts grow.  Ticks may come before or after any of these
instructions, so slice after slice can be put together as if all instructions had run first.

* `Steady` — what a slice must be like for that;
* `CatchesUp` — so many untimed instructions, and so many ticks;
* `Slices.catchesUp` — what a run of steady slices comes to;
* `machine_eq_of_slices` — **only the counts matter**, not the slices that led to them.
-/

namespace ChipEight.Emulator

/-! ## Steady slices -/

/-- A slice in which no timed instruction is executed, and at whose end no less is due than was done
before it.  What is due then counts as done. -/
structure Steady (e : Emulator) (done : Nat × Int) (next : Emulator) : Prop where
  /-- No fewer instructions are due than were done. -/
  stepsDone_le : e.pace.stepsDone ≤ next.pace.stepsDone
  /-- No fewer ticks are due than were done. -/
  ticksDone_le : e.pace.ticksDone ≤ next.pace.ticksDone
  /-- None of the instructions that are executed is timed. -/
  untimed : ∀ j < done.1, ∀ i, (e.machine.stepped j).Executes i → i.isTimed = false

/-! ## Instructions and ticks -/

/-- **One emulator is another so many untimed instructions and ticks later.** -/
structure CatchesUp (e : Emulator) (n t : Nat) (last : Emulator) : Prop where
  machine : ∃ m, e.machine.Untimed n m ∧ last.machine = m.withTimers (e.machine.timers.ticks t)
  stepsDone : last.pace.stepsDone = e.pace.stepsDone + n
  ticksDone : last.pace.ticksDone = e.pace.ticksDone + t

namespace CatchesUp

variable {e middle last : Emulator} {n n' t t' : Nat}

theorem refl (e : Emulator) : e.CatchesUp 0 0 e where
  machine := ⟨e.machine, .nil _, rfl⟩
  stepsDone := (Int.add_zero _).symm
  ticksDone := (Int.add_zero _).symm

/-- **Instructions and ticks add up**: the later instructions run as they would have before the
earlier ticks. -/
theorem trans (h : e.CatchesUp n t middle) (h' : middle.CatchesUp n' t' last) :
    e.CatchesUp (n + n') (t + t') last where
  machine := by
    obtain ⟨m, hm, hmiddle⟩ := h.machine
    obtain ⟨m', hm', hlast⟩ := h'.machine
    have huntimed : m.Untimed n' (m'.withTimers m.timers) := by
      have hearlier := hm'.withTimers m.timers
      rwa [hmiddle, Machine.withTimers_withTimers, Machine.withTimers_timers] at hearlier
    refine ⟨_, hm.trans huntimed, ?_⟩
    rw [hlast, hmiddle, Machine.timers_withTimers, Machine.withTimers_withTimers, Timers.ticks_add]
  stepsDone := by
    rw [h'.stepsDone, h.stepsDone]
    omega
  ticksDone := by
    rw [h'.ticksDone, h.ticksDone]
    omega

/-- The machine does not wait at the end. -/
theorem idle (h : e.CatchesUp n t last) (hidle : e.machine.wait.active = false) :
    last.machine.wait.active = false := by
  obtain ⟨m, hm, hlast⟩ := h.machine
  rw [hlast]
  exact hm.idle hidle

end CatchesUp

/-! ## Runs of steady slices -/

/-- **A steady slice takes the machine on by what it returns.** -/
theorem Steady.catchesUp {e next : Emulator} {seconds : Quantity} {done : Nat × Int}
    (h : Steady e done next) (hidle : e.machine.wait.active = false)
    (hcall : (advanceBy seconds).run e = .ok done next) :
    ∃ t : Nat, done.2 = t ∧ e.CatchesUp done.1 t next := by
  obtain ⟨time, -, hadvance⟩ := run_advanceBy_eq_ok_iff.1 hcall
  obtain ⟨stepsDue, ticksDue, -, -, hfailure, rfl, rfl⟩ := run_advance_eq_ok_iff.1 hadvance
  obtain ⟨hops, hburst⟩ := Machine.Untimed.of_burst hidle hfailure h.untimed
  have hsteps := h.stepsDone_le
  have hticks := h.ticksDone_le
  rw [stepsDone_advanced] at hsteps
  rw [ticksDone_advanced] at hticks
  refine ⟨(ticksDue - e.pace.ticksDone).toNat, (Int.toNat_of_nonneg (by omega)).symm, ?_, ?_, ?_⟩
  · rw [hops]
    refine ⟨_, hburst, ?_⟩
    rw [machine_advanced, ← hburst.timers]
    rfl
  · rw [stepsDone_advanced, hops]
    omega
  · rw [ticksDone_advanced]
    omega

/-- A slice is steady if what is due is no less than what is done, and every word on the way is that
of an untimed instruction. -/
theorem Slices.cons_of_due {e last : Emulator} {time : Float} {rest : List Quantity}
    {done : Nat × Int} {others : List (Nat × Int)} (stepsDue ticksDue : Int)
    (hsteps : (e.pace.wait time).stepsDue = .ok stepsDue)
    (hticks : (e.pace.wait time).ticksDue = .ok ticksDue)
    (hle : e.pace.stepsDone ≤ stepsDue ∧ e.pace.ticksDone ≤ ticksDue)
    (hburst : (e.machine.burst (stepsDue - e.pace.stepsDone).toNat).failure = none)
    (hdone : done = ((e.machine.burst (stepsDue - e.pace.stepsDone).toNat).ops,
      ticksDue - e.pace.ticksDone))
    (hwords : ∀ j < done.1,
      (Instruction.decode? (e.machine.stepped j).nextWord.toNat).all (!·.isTimed) = true)
    (hrest : Slices Steady (e.advanced time stepsDue ticksDue) rest others last) :
    Slices Steady e (.real time :: rest) (done :: others) last := by
  have hadvance := run_advance_eq_ok_iff.2 ⟨stepsDue, ticksDue, hsteps, hticks, hburst, hdone, rfl⟩
  refine .cons (run_advanceBy_eq_ok_iff.2 ⟨time, rfl, hadvance⟩) ⟨?_, ?_, fun j hj i hi => ?_⟩ hrest
  · rw [stepsDone_advanced]
    exact hle.1
  · rw [ticksDone_advanced]
    exact hle.2
  · have hword := hwords j hj
    rw [Instruction.decode?_of_row hi.1.row] at hword
    simpa using hword

/-- **A run of steady slices takes the machine on by what they return together.** -/
theorem Slices.catchesUp {e last : Emulator} {slices : List Quantity} {done : List (Nat × Int)}
    (h : Slices Steady e slices done last) (hidle : e.machine.wait.active = false) :
    ∃ t : Nat, (done.map Prod.snd).sum = t ∧ e.CatchesUp (done.map Prod.fst).sum t last := by
  induction h with
  | nil e => exact ⟨0, rfl, .refl e⟩
  | cons hcall hslice hrest ih =>
    obtain ⟨t, ht, hnext⟩ := hslice.catchesUp hidle hcall
    obtain ⟨t', ht', hlast⟩ := ih (hnext.idle hidle)
    refine ⟨t + t', ?_, hnext.trans hlast⟩
    rw [List.map_cons, List.sum_cons, ht, ht', Int.natCast_add]

/-- **How time is sliced makes no difference.**  Two runs of slices, none of which sets a count back
or executes a timed instruction, lead from the same machine to the same machine if they lead from
the same counts to the same counts; they return as many instructions, and as many ticks. -/
theorem machine_eq_of_slices {e e' last last' : Emulator} {slices slices' : List Quantity}
    {done done' : List (Nat × Int)} (hmachine : e.machine = e'.machine)
    (hsteps : e.pace.stepsDone = e'.pace.stepsDone) (hticks : e.pace.ticksDone = e'.pace.ticksDone)
    (hidle : e.machine.wait.active = false) (hrun : Slices Steady e slices done last)
    (hrun' : Slices Steady e' slices' done' last')
    (hlast_steps : last.pace.stepsDone = last'.pace.stepsDone)
    (hlast_ticks : last.pace.ticksDone = last'.pace.ticksDone) :
    last.machine = last'.machine ∧
      (done.map Prod.fst).sum = (done'.map Prod.fst).sum ∧
      (done.map Prod.snd).sum = (done'.map Prod.snd).sum := by
  obtain ⟨t, ht, h⟩ := hrun.catchesUp hidle
  obtain ⟨t', ht', h'⟩ := hrun'.catchesUp (hmachine ▸ hidle)
  have hn : (done.map Prod.fst).sum = (done'.map Prod.fst).sum := by
    have hcount := h.stepsDone
    have hcount' := h'.stepsDone
    omega
  have ht_eq : t = t' := by
    have hcount := h.ticksDone
    have hcount' := h'.ticksDone
    omega
  obtain ⟨m, hm, hlast⟩ := h.machine
  obtain ⟨m', hm', hlast'⟩ := h'.machine
  refine ⟨?_, hn, by rw [ht, ht', ht_eq]⟩
  rw [hlast, hlast', hm.eq_stepped, hm'.eq_stepped, hmachine, hn, ht_eq]

/-- An emulator at four hundred instructions a second, whose program counts in a register without
end while the delay timer runs down. -/
def counting : Emulator where
  machine := { Machine.ofParts ⟨#[0x71, 0x01, 0x10, 0x00]⟩ (.empty 16) .display [] false with
    pc := 0
    timers := ⟨5, 0⟩ }
  pace := ⟨.whole 400, 0.0, 0, 0, false, 0, 0⟩
  input := .none
  display := ⟨.whole 1, 0, .none⟩
  sound := ⟨.silent, false⟩
  host := .quiet

/-- Ten instructions and one tick are the same whether the tick follows the eighth instruction or
the tenth. -/
theorem machine_eq_of_slices_tick :
    ∃ last last', counting.machine.wait.active = false ∧
      Slices Steady counting [.real 0.02, .real 0.005] [(8, 1), (2, 0)] last ∧
      Slices Steady counting [.real 0.005, .real 0.02] [(2, 0), (8, 1)] last' ∧
      last.pace.stepsDone = last'.pace.stepsDone ∧ last.pace.ticksDone = last'.pace.ticksDone ∧
      last.machine = last'.machine := by
  have hrun : Slices Steady counting [.real 0.02, .real 0.005] [(8, 1), (2, 0)]
      ((counting.advanced 0.02 8 1).advanced 0.005 10 1) := by
    refine .cons_of_due 8 1 (by rfl) (by rfl) (by decide) (by decide +kernel) (by decide +kernel)
      ?_ ?_
    · decide +kernel
    refine .cons_of_due 10 1 ?_ ?_ (by simp [counting]) (by decide +kernel) (by decide +kernel) ?_
      (.nil _)
    · rw [Pace.stepsDue, Pace.wait, elapsed_advanced, speed_advanced]
      rfl
    · rw [Pace.ticksDue, Pace.wait, elapsed_advanced]
      rfl
    · decide +kernel
  have hrun' : Slices Steady counting [.real 0.005, .real 0.02] [(2, 0), (8, 1)]
      ((counting.advanced 0.005 2 0).advanced 0.02 10 1) := by
    refine .cons_of_due 2 0 (by rfl) (by rfl) (by decide) (by decide +kernel) (by decide +kernel)
      ?_ ?_
    · decide +kernel
    refine .cons_of_due 10 1 ?_ ?_ (by simp) (by decide +kernel) (by decide +kernel) ?_ (.nil _)
    · rw [Pace.stepsDue, Pace.wait, elapsed_advanced, speed_advanced]
      rfl
    · rw [Pace.ticksDue, Pace.wait, elapsed_advanced]
      rfl
    · decide +kernel
  obtain ⟨hmachine, -, -⟩ :=
    machine_eq_of_slices rfl rfl rfl rfl hrun hrun' (by simp) (by simp)
  exact ⟨_, _, rfl, hrun, hrun', by simp, by simp, hmachine⟩

end ChipEight.Emulator
