import ChipEight.Proofs.Instruction.Table
import ChipEight.Proofs.Machine.Effect

/-!
# Proofs/Machine/Step — what a step does in every case

A step that does not wait for a key fetches the word at the program counter, finds its row in the
instruction table, and runs the instruction of that row.

* `step_of_wait`, `step_of_not_inRange`, `step_of_no_row`, `step_of_ok`, `step_of_failure` — the step
  in each case;
* `step_cases` — **there is no other case**;
* `Executes` — a step that runs an instruction to its end;
* `Runs` — a word that runs to its end without a step.
-/

namespace ChipEight.Machine

open Instruction

/-! ## The next word -/

/-- The word at the program counter, the first byte more significant. -/
def nextWord (m : Machine) : Word :=
  let high := m.memory.cells.getD m.pc.toNat 0
  let low := m.memory.cells.getD (m.pc.toNat + 1) 0
  Word.ofInt (0x100 * high.toNat + low.toNat)

/-- A fetch in range gives the number of the next word. -/
theorem fetch_of_inRange {m : Machine} (h : m.memory.InRange m.pc 2) :
    m.fetch = .ok m.nextWord.toNat := by
  obtain ⟨hlow, hhigh⟩ := h
  have hblock : m.memory.bytesAt m.pc.toNat 2 =
      [m.memory.cells.getD m.pc.toNat 0, m.memory.cells.getD (m.pc.toNat + 1) 0] := by
    rw [Memory.bytesAt_succ 1 (by omega), Memory.bytesAt_succ 0 (by omega)]
    simp [Memory.bytesAt]
  have hread : m.memory.readBlock m.pc 2 = .ok (m.memory.bytesAt m.pc.toNat 2) :=
    Memory.readBlock_of_inRange ⟨hlow, hhigh⟩
  have hbytes := (m.memory.cells.getD m.pc.toNat 0).toNat_lt
  have hbytes' := (m.memory.cells.getD (m.pc.toNat + 1) 0).toNat_lt
  rw [fetch, hread, hblock, nextWord, Word.toNat_ofInt]
  refine congrArg Except.ok ?_
  simp only [wordOf, List.foldl_cons, List.foldl_nil]
  omega

/-- A fetch out of range fails. -/
theorem fetch_of_not_inRange {m : Machine} (h : ¬m.memory.InRange m.pc 2) :
    m.fetch = .error (.machine (.outOfBounds 2 m.pc m.memory.top)) := by
  rw [fetch, Memory.readBlock_of_not_inRange h]
  rfl

/-- The machine once its next word is fetched and the program counter has moved past it. -/
def begun (m : Machine) : Machine :=
  (m.fetched m.nextWord.toNat).advancePc

/-- The next step takes up an instruction: the machine does not wait, and the next word is there and
stands for the instruction. -/
structure Begins (m : Machine) (i : Instruction) : Prop where
  idle : m.wait.active = false
  inRange : m.memory.InRange m.pc 2
  row : Row m.nextWord i

/-- The next step runs an instruction to its end. -/
def Executes (m : Machine) (i : Instruction) : Prop :=
  m.Begins i ∧ m.step.result = .ok true

/-! ## The step, case by case -/

/-- A step of a machine that waits looks at the keypad. -/
theorem step_of_wait {m : Machine} (h : m.wait.active = true) :
    m.step = ⟨m.checkKeys.1, none, .ok m.checkKeys.2⟩ := by
  rw [step, if_pos h]

theorem machine_step_of_wait {m : Machine} (h : m.wait.active = true) :
    m.step.machine = m.checkKeys.1 := by
  rw [step_of_wait h]

/-- A step with no word at the program counter fails. -/
theorem step_of_not_inRange {m : Machine} (hidle : m.wait.active = false)
    (h : ¬m.memory.InRange m.pc 2) :
    m.step = ⟨{ m with origin := m.pc }, none,
      .error (.machine (.outOfBounds 2 m.pc m.memory.top))⟩ := by
  rw [step, hidle, fetch_of_not_inRange h]
  rfl

/-- A step with a word at the program counter runs it. -/
theorem step_of_inRange {m : Machine} (hidle : m.wait.active = false)
    (h : m.memory.InRange m.pc 2) : m.step = (m.fetched m.nextWord.toNat).runFetched := by
  rw [step, hidle, fetch_of_inRange h]
  rfl

/-- A step whose word matches no row fails. -/
theorem step_of_no_row {m : Machine} (hidle : m.wait.active = false)
    (h : m.memory.InRange m.pc 2) (hrow : ∀ i, ¬Row m.nextWord i) :
    m.step = ⟨m.fetched m.nextWord.toNat, m.begun.liveLine, .error m.begun.invalidOpcode⟩ := by
  have hdecode : decode? m.begun.opcode = none := decode?_eq_none_iff.2 hrow
  have hrun : runOpcode.run (m.fetched m.nextWord.toNat).advancePc = _ :=
    run_runOpcode_of_decode?_eq_none hdecode
  rw [step_of_inRange hidle h, runFetched, hrun]
  rfl

/-- The word that a step takes up runs as its instruction. -/
theorem run_runOpcode_of_begins {m : Machine} {i : Instruction} (h : m.Begins i) :
    runOpcode.run (m.fetched m.nextWord.toNat).advancePc = (execute i).run m.begun :=
  run_runOpcode_of_decode? (decode?_of_row h.row)

/-- **A step that takes up an instruction leaves what the instruction leaves.** -/
theorem step_of_ok {m next : Machine} {i : Instruction} (h : m.Begins i)
    (hrun : (execute i).run m.begun = .ok () next) :
    m.step = ⟨next, m.begun.liveLine, .ok true⟩ := by
  rw [step_of_inRange h.idle h.inRange, runFetched, run_runOpcode_of_begins h, hrun]
  rfl

/-- **A step whose instruction fails** puts the program counter back after a fault of the program. -/
theorem step_of_failure {m : Machine} {i : Instruction} {failure : Failure} (h : m.Begins i)
    (hfailure : m.begun.failure? i = some failure) :
    m.step = ⟨m.begun.afterFailure failure, m.begun.liveLine, .error failure⟩ := by
  have hrun := run_execute_eq_error_iff.2 ⟨hfailure, rfl⟩
  rw [step_of_inRange h.idle h.inRange, runFetched, run_runOpcode_of_begins h, hrun]
  rfl

/-- **There is no other case**: a step waits, finds no word, finds no instruction, runs one to its
end, or runs one that fails. -/
theorem step_cases (m : Machine) :
    m.wait.active = true ∨
      (m.wait.active = false ∧ ¬m.memory.InRange m.pc 2) ∨
      (m.wait.active = false ∧ m.memory.InRange m.pc 2 ∧ ∀ i, ¬Row m.nextWord i) ∨
      (∃ i next, m.Begins i ∧ (execute i).run m.begun = .ok () next) ∨
      ∃ i failure, m.Begins i ∧ m.begun.failure? i = some failure := by
  rcases Bool.eq_false_or_eq_true m.wait.active with hwait | hidle
  · exact .inl hwait
  by_cases hrange : m.memory.InRange m.pc 2
  · by_cases hrow : ∃ i, Row m.nextWord i
    · obtain ⟨i, hi⟩ := hrow
      rcases hrun : (execute i).run m.begun with ⟨⟨⟩, next⟩ | ⟨failure, left⟩
      · exact .inr (.inr (.inr (.inl ⟨i, next, ⟨hidle, hrange, hi⟩, hrun⟩)))
      · have hfailure := (run_execute_eq_error_iff.1 hrun).1
        exact .inr (.inr (.inr (.inr ⟨i, failure, ⟨hidle, hrange, hi⟩, hfailure⟩)))
    · exact .inr (.inr (.inl ⟨hidle, hrange, fun i hi => hrow ⟨i, hi⟩⟩))
  · exact .inr (.inl ⟨hidle, hrange⟩)

/-- An instruction that is executed has run without a failure. -/
theorem Executes.run {m : Machine} {i : Instruction} (h : m.Executes i) :
    (execute i).run m.begun = .ok () m.step.machine := by
  obtain ⟨hbegins, hresult⟩ := h
  rcases hfailure : m.begun.failure? i with _ | failure
  · obtain ⟨next, hnext⟩ := exists_run_execute hfailure
    rw [step_of_ok hbegins hnext]
    exact hnext
  · rw [step_of_failure hbegins hfailure] at hresult
    nomatch hresult

/-- **A step runs an instruction to its end exactly if it takes it up** and nothing makes it fail. -/
theorem executes_iff {m : Machine} {i : Instruction} :
    m.Executes i ↔ m.Begins i ∧ m.begun.failure? i = none := by
  constructor
  · intro h
    exact ⟨h.1, failure?_of_run_execute h.run⟩
  · rintro ⟨hbegins, hfailure⟩
    obtain ⟨next, hnext⟩ := exists_run_execute hfailure
    exact ⟨hbegins, by rw [step_of_ok hbegins hnext]⟩

/-- A step that does not wait and does not fail runs an instruction to its end. -/
theorem exists_executes {m : Machine} {ran : Bool} (hidle : m.wait.active = false)
    (hresult : m.step.result = .ok ran) : ∃ i, m.Executes i := by
  rcases step_cases m with hwait | ⟨-, hrange⟩ | ⟨-, hrange, hrow⟩ | ⟨i, next, hbegins, hrun⟩ |
    ⟨i, failure, hbegins, hfailure⟩
  · rw [hidle] at hwait
    nomatch hwait
  · rw [step_of_not_inRange hidle hrange] at hresult
    nomatch hresult
  · rw [step_of_no_row hidle hrange hrow] at hresult
    nomatch hresult
  · exact ⟨i, hbegins, by rw [step_of_ok hbegins hrun]⟩
  · rw [step_of_failure hbegins hfailure] at hresult
    nomatch hresult

instance (m : Machine) (i : Instruction) : Decidable (m.Begins i) :=
  decidable_of_iff (m.wait.active = false ∧ m.memory.InRange m.pc 2 ∧ Row m.nextWord i)
    ⟨fun ⟨hidle, hrange, hrow⟩ => ⟨hidle, hrange, hrow⟩, fun h => ⟨h.idle, h.inRange, h.row⟩⟩

instance (m : Machine) (i : Instruction) : Decidable (m.Executes i) :=
  decidable_of_iff _ executes_iff.symm

/-! ## A word by itself -/

/-- A word runs to its end once it is the one that was fetched, wherever it came from. -/
def Runs (m : Machine) (w : Word) (next : Machine) : Prop :=
  runOpcode.run { m with opcode := w.toNat } = .ok () next

/-- A word runs as the instruction of its row. -/
theorem runs_of_row {m next : Machine} {w : Word} {i : Instruction} (hrow : Row w i)
    (hrun : (execute i).run { m with opcode := w.toNat } = .ok () next) : m.Runs w next :=
  (run_runOpcode_of_decode? (decode?_of_row hrow)).trans hrun

end ChipEight.Machine
