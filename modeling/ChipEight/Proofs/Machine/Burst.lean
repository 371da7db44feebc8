import ChipEight.Machine.Step

/-!
# Proofs/Machine/Burst — how a burst of steps ends

A burst takes one step after another as long as each of them runs an instruction.  What it leaves
is therefore the machine after a number of steps: as many as it ran instructions, and one more if a
step stopped it.

* `stepped` — the machine after a number of steps;
* `EndsAfter` — the three ways in which a burst can end;
* `burst_ends` — **every burst ends in one of them**;
* `burst_of_failure`, `failure_burst_eq_none_iff`, `ops_burst_eq_iff` — how it ends, told from the steps.
-/

namespace ChipEight.Machine

/-! ## Some steps -/

/-- The machine after a number of steps. -/
def stepped (m : Machine) : Nat → Machine
  | 0 => m
  | n + 1 => m.step.machine.stepped n

/-- The first `n` steps each run an instruction. -/
def AllRun (m : Machine) (n : Nat) : Prop :=
  ∀ j < n, (m.stepped j).step.result = .ok true

theorem allRun_zero (m : Machine) : m.AllRun 0 := nofun

/-- The first steps each run an instruction if the first does and those after it do. -/
theorem AllRun.succ {m : Machine} {n : Nat} (hfirst : m.step.result = .ok true)
    (h : m.step.machine.AllRun n) : m.AllRun (n + 1) := by
  intro j hj
  cases j with
  | zero => exact hfirst
  | succ j => exact h j (by omega)

/-- …and conversely. -/
theorem AllRun.tail {m : Machine} {n : Nat} (h : m.AllRun (n + 1)) : m.step.machine.AllRun n :=
  fun j hj => h (j + 1) (by omega)

/-- The steps may also be told from the last one back. -/
theorem stepped_succ (m : Machine) (n : Nat) : m.stepped (n + 1) = (m.stepped n).step.machine := by
  induction n generalizing m with
  | zero => rfl
  | succ n ih => exact ih m.step.machine

/-! ## How a burst ends -/

/-- **What a burst leaves** that has run `n` instructions, from a machine and with a budget. -/
inductive EndsAfter (m : Machine) (budget n : Nat) (b : Burst) : Prop where
  /-- The budget is spent. -/
  | spent (hn : n = budget) (hmachine : b.machine = m.stepped n) (hfailure : b.failure = none)
  /-- A step waits. -/
  | waits (hn : n < budget) (hresult : (m.stepped n).step.result = .ok false)
    (hmachine : b.machine = m.stepped (n + 1)) (hfailure : b.failure = none)
  /-- A step fails. -/
  | fails (failure : Failure) (hn : n < budget)
    (hresult : (m.stepped n).step.result = .error failure)
    (hmachine : b.machine = m.stepped (n + 1)) (hfailure : b.failure = some failure)

/-- A burst that begins with an instruction ends as the burst after it does. -/
theorem EndsAfter.succ {m : Machine} {budget n : Nat} {b : Burst}
    (h : m.step.machine.EndsAfter budget n b) : m.EndsAfter (budget + 1) (n + 1) b := by
  cases h with
  | spent hn hmachine hfailure => exact .spent (congrArg (· + 1) hn) hmachine hfailure
  | waits hn hresult hmachine hfailure =>
    exact .waits (Nat.succ_lt_succ hn) hresult hmachine hfailure
  | fails failure hn hresult hmachine hfailure =>
    exact .fails failure (Nat.succ_lt_succ hn) hresult hmachine hfailure

theorem continueBurst_ends (b : Burst) (h : b.failure = none) (budget : Nat) :
    ∃ n, b.machine.AllRun n ∧ (continueBurst b budget).ops = b.ops + n ∧
      b.machine.EndsAfter budget n (continueBurst b budget) := by
  induction budget generalizing b with
  | zero => exact ⟨0, allRun_zero _, rfl, .spent rfl rfl h⟩
  | succ budget ih =>
    rcases hresult : b.machine.step.result with failure | ran
    · simp only [continueBurst, hresult]
      exact ⟨0, allRun_zero _, rfl, .fails failure (Nat.succ_pos _) hresult rfl rfl⟩
    · cases ran with
      | false =>
        simp only [continueBurst, hresult]
        exact ⟨0, allRun_zero _, rfl, .waits (Nat.succ_pos _) hresult rfl rfl⟩
      | true =>
        simp only [continueBurst, hresult]
        obtain ⟨n, hall, hops, hends⟩ := ih ⟨b.machine.step.machine, b.ops + 1,
          b.machine.step.printed.toList ++ b.printed, none⟩ rfl
        exact ⟨n + 1, hall.succ hresult, hops.trans (Nat.add_right_comm _ _ _), hends.succ⟩

/-- **A burst runs instructions until its budget is spent, a step waits, or one fails.** -/
theorem burst_ends (m : Machine) (budget : Nat) :
    m.AllRun (m.burst budget).ops ∧ m.EndsAfter budget (m.burst budget).ops (m.burst budget) := by
  obtain ⟨n, hall, hops, hends⟩ := continueBurst_ends ⟨m, 0, [], none⟩ rfl budget
  rw [Nat.zero_add] at hops
  rw [burst, hops]
  exact ⟨hall, hends⟩

/-! ## The end told from the steps -/

section Told

variable {m : Machine} {budget k : Nat}

/-- A burst that ends within its budget is stopped by a step that runs no instruction. -/
theorem EndsAfter.stopped {n : Nat} {b : Burst} (h : m.EndsAfter budget n b) (hn : n < budget) :
    (m.stepped n).step.result ≠ .ok true := by
  intro hrun
  cases h with
  | spent hspent => omega
  | waits hn hresult =>
    rw [hresult] at hrun
    nomatch hrun
  | fails failure hn hresult =>
    rw [hresult] at hrun
    nomatch hrun

/-- No more instructions run than the budget allows. -/
theorem ops_burst_le (m : Machine) (budget : Nat) : (m.burst budget).ops ≤ budget := by
  cases (burst_ends m budget).2 with
  | spent hn => exact Nat.le_of_eq hn
  | waits hn => exact Nat.le_of_lt hn
  | fails failure hn => exact Nat.le_of_lt hn

/-- A burst stops at the first step within its budget that runs no instruction. -/
theorem ops_burst_of_stop (hk : k < budget) (hall : m.AllRun k)
    (hstop : (m.stepped k).step.result ≠ .ok true) : (m.burst budget).ops = k := by
  obtain ⟨hran, hends⟩ := burst_ends m budget
  have hle : (m.burst budget).ops ≤ k := Nat.le_of_not_lt fun hlt => hstop (hran k hlt)
  refine Nat.le_antisymm hle (Nat.le_of_not_lt fun hlt => ?_)
  -- the step that stopped it would be one of the first `k`, all of which run
  exact hends.stopped (Nat.lt_trans hlt hk) (hall _ hlt)

/-- **A burst fails as the first step that runs no instruction fails**, and leaves what that step
leaves. -/
theorem burst_of_failure {failure : Failure} (hk : k < budget) (hall : m.AllRun k)
    (hresult : (m.stepped k).step.result = .error failure) :
    (m.burst budget).failure = some failure ∧ (m.burst budget).machine = m.stepped (k + 1) := by
  have hstop : (m.stepped k).step.result ≠ .ok true := by
    rw [hresult]
    exact nofun
  have hends := (burst_ends m budget).2
  rw [ops_burst_of_stop hk hall hstop] at hends
  cases hends with
  | spent hn => omega
  | waits hn hfalse =>
    rw [hresult] at hfalse
    nomatch hfalse
  | fails other hn hother hmachine hfailure =>
    obtain rfl := Except.error.inj (hresult.symm.trans hother)
    exact ⟨hfailure, hmachine⟩

/-- **A burst does not fail exactly if no step that it comes to does.** -/
theorem failure_burst_eq_none_iff :
    (m.burst budget).failure = none ↔
      ∀ k < budget, m.AllRun k → ∀ failure, (m.stepped k).step.result ≠ .error failure := by
  constructor
  · intro h k hk hall failure hresult
    rw [(burst_of_failure hk hall hresult).1] at h
    nomatch h
  · intro h
    obtain ⟨hall, hends⟩ := burst_ends m budget
    cases hends with
    | spent hn hmachine hfailure => exact hfailure
    | waits hn hresult hmachine hfailure => exact hfailure
    | fails failure hn hresult => exact absurd hresult (h _ hn hall failure)

/-- **A burst spends its budget exactly if that many steps each run an instruction.** -/
theorem ops_burst_eq_iff : (m.burst budget).ops = budget ↔ m.AllRun budget := by
  obtain ⟨hran, hends⟩ := burst_ends m budget
  constructor
  · intro h
    rwa [h] at hran
  · intro hall
    refine Nat.le_antisymm (ops_burst_le m budget) (Nat.le_of_not_lt fun hlt => ?_)
    exact hends.stopped hlt (hall _ hlt)

end Told

end ChipEight.Machine
