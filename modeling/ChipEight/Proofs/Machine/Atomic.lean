import ChipEight.Proofs.Machine.Step

/-!
# Proofs/Machine/Atomic — a step that fails leaves the machine as it was

A fault of the program can arise anywhere in a step: before a word is fetched, when the word matches
no row, or in the middle of an instruction, with the program counter already moved on.

* `step_fault_atomic` — after a fault only the note of what was begun last may differ, and another
  step has the same outcome.
-/

namespace ChipEight.Machine

open Instruction

/-- A fault of an instruction puts the program counter back on its word. -/
theorem afterFailure_begun (m : Machine) (fault : MachineFault) :
    m.begun.afterFailure (.machine fault) = m.fetched m.nextWord.toNat := rfl

/-- A machine that still stands on the word it has fetched steps as it did before. -/
theorem step_fetched {m : Machine} (hidle : m.wait.active = false)
    (h : m.memory.InRange m.pc 2) : (m.fetched m.nextWord.toNat).step = m.step := by
  have hfetched : (m.fetched m.nextWord.toNat).step =
      ((m.fetched m.nextWord.toNat).fetched m.nextWord.toNat).runFetched :=
    step_of_inRange hidle h
  rw [hfetched, step_of_inRange hidle h]
  rfl

/-- What a fault leaves of a machine: the machine, standing on the word if it was fetched. -/
theorem machine_step_of_fault {m : Machine} {fault : MachineFault}
    (h : m.step.result = .error (.machine fault)) :
    m.wait.active = false ∧
      ((m.memory.InRange m.pc 2 ∧ m.step.machine = m.fetched m.nextWord.toNat) ∨
        (¬m.memory.InRange m.pc 2 ∧ m.step.machine = { m with origin := m.pc })) := by
  rcases m.step_cases with hwait | ⟨hidle, hrange⟩ | ⟨hidle, hrange, hrow⟩ |
    ⟨i, next, hbegins, hrun⟩ | ⟨i, failure, hbegins, hfailure⟩
  · rw [step_of_wait hwait] at h
    nomatch h
  · exact ⟨hidle, .inr ⟨hrange, by rw [step_of_not_inRange hidle hrange]⟩⟩
  · exact ⟨hidle, .inl ⟨hrange, by rw [step_of_no_row hidle hrange hrow]⟩⟩
  · rw [step_of_ok hbegins hrun] at h
    nomatch h
  · rw [step_of_failure hbegins hfailure] at h
    obtain rfl : failure = .machine fault := Except.error.inj h
    refine ⟨hbegins.idle, .inl ⟨hbegins.inRange, ?_⟩⟩
    rw [step_of_failure hbegins hfailure, afterFailure_begun]

/-- **A step that ends in a fault of the program changes nothing** but the note of the instruction
last begun: the origin is the program counter, and the word is noted if it was fetched.  Another step
from there has the same outcome, the fault and its wording included, and changes nothing at all. -/
theorem step_fault_atomic {m : Machine} {fault : MachineFault}
    (h : m.step.result = .error (.machine fault)) :
    (∀ opcode, m.fetch = .ok opcode → m.step.machine = { m with origin := m.pc, opcode }) ∧
      (∀ failure, m.fetch = .error failure → m.step.machine = { m with origin := m.pc }) ∧
      m.step.machine.step = m.step := by
  obtain ⟨hidle, ⟨hrange, hmachine⟩ | ⟨hrange, hmachine⟩⟩ := machine_step_of_fault h
  · have hfetch := fetch_of_inRange hrange
    refine ⟨?_, ?_, ?_⟩
    · intro opcode hopcode
      rw [hfetch] at hopcode
      obtain rfl := Except.ok.inj hopcode
      exact hmachine
    · intro failure hfailure
      rw [hfetch] at hfailure
      nomatch hfailure
    · rw [hmachine]
      exact step_fetched hidle hrange
  · have hfetch := fetch_of_not_inRange hrange
    refine ⟨?_, ?_, ?_⟩
    · intro opcode hopcode
      rw [hfetch] at hopcode
      nomatch hopcode
    · intro failure hfailure
      exact hmachine
    · have hagain : ({ m with origin := m.pc } : Machine).step = _ :=
        step_of_not_inRange hidle hrange
      rw [hmachine, hagain, step_of_not_inRange hidle hrange]

/-- Three decimal digits do not fit in the last two bytes of a memory of four. -/
theorem step_fault_atomic_decimal :
    let m : Machine :=
      { ofParts ⟨#[0xF1, 0x33, 0x07, 0x08]⟩ (.empty 16) .display [] false with pc := 0, index := 2 }
    m.step.result = .error (.machine (.outOfBounds 3 2 3)) ∧
      (∀ opcode, m.fetch = .ok opcode → m.step.machine = { m with origin := m.pc, opcode }) ∧
      (∀ failure, m.fetch = .error failure → m.step.machine = { m with origin := m.pc }) ∧
      m.step.machine.step = m.step :=
  ⟨rfl, @step_fault_atomic _ (.outOfBounds 3 2 3) rfl⟩

end ChipEight.Machine
