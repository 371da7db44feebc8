import ChipEight.Proofs.Machine.Bounds

/-!
# Proofs/Machine/Outcome — exactly when a step fails, and how

`Fault m` lists what can go wrong in the next step of `m`: one row a fault, with its condition read
off the word at the program counter, the index and the stack.

* `WellFormed.step_eq_fault_iff` — a step fails with the faults of the list and with no other;
* `Reachable.step_outcome` — **the exact condition of every outcome**, on every reachable machine.
-/

namespace ChipEight.Machine

open Instruction

/-! ## The faults of the next step -/

/-- The instruction of a word reads or writes so many bytes at the index. -/
inductive Accesses : Word → Nat → Prop where
  /-- The rows of a sprite. -/
  | draw (x y n : Digit) : Accesses ⟨0xD, x, y, n⟩ n.val
  /-- Three decimal digits. -/
  | decimal (x : Digit) : Accesses ⟨0xF, x, 0x3, 0x3⟩ 3
  /-- Registers 0 to `x`. -/
  | save (x : Digit) : Accesses ⟨0xF, x, 0x5, 0x5⟩ (x.val + 1)
  | restore (x : Digit) : Accesses ⟨0xF, x, 0x6, 0x5⟩ (x.val + 1)

/-- **What goes wrong in the next step**, unless the machine waits for a key. -/
inductive Fault (m : Machine) : MachineFault → Prop where
  /-- The word itself does not lie in memory. -/
  | fetch (hpc : 0xFFE < m.pc) : Fault m (.outOfBounds 2 m.pc 0xFFF)
  /-- The word matches no row of the instruction table. -/
  | decode (hpc : m.pc ≤ 0xFFE) (hrow : ∀ i, ¬Row m.nextWord i) :
    Fault m (.invalidOpcode m.nextWord.toNat m.pc (m.begun.fullDump unknown))
  /-- A return while no call is in progress. -/
  | ret (hpc : m.pc ≤ 0xFFE) (hword : m.nextWord = ⟨0x0, 0x0, 0xE, 0xE⟩)
    (hempty : m.stack.entries = []) : Fault m .stackUnderflow
  /-- One call too many. -/
  | call (x y n : Digit) (hpc : m.pc ≤ 0xFFE) (hword : m.nextWord = ⟨0x2, x, y, n⟩)
    (hfull : m.stack.depth = 16) : Fault m (.stackOverflow 16)
  /-- An access that runs past the top of memory; one of no bytes is checked like one of a single
  byte. -/
  | access (count : Nat) (hpc : m.pc ≤ 0xFFE) (haccess : Accesses m.nextWord count)
    (hhigh : 0x1000 < m.index + max count 1) : Fault m (.outOfBounds count m.index 0xFFF)

/-- A return fails exactly if the stack is empty. -/
theorem failure?_ret_eq_some_iff {m : Machine} {failure : Failure} :
    m.failure? .ret = some failure ↔
      m.stack.entries = [] ∧ failure = .machine .stackUnderflow := by
  rw [failure?]
  split
  · next h => simp [h, eq_comm]
  · next h => simp [h]

namespace WellFormed

variable {m : Machine}

/-- The last address of a well-formed machine. -/
theorem top_memory (h : m.WellFormed) : m.memory.top = 0xFFF := by
  rw [Memory.top, h.memory_size]
  rfl

/-- An access at the index fails exactly if it runs past the top. -/
theorem accessFailure?_eq_some_iff (h : m.WellFormed) {count : Nat} {failure : Failure} :
    m.accessFailure? count = some failure ↔
      0x1000 < m.index + max count 1 ∧ failure = .machine (.outOfBounds count m.index 0xFFF) := by
  obtain ⟨hlow, -⟩ := h.index_bounds
  have hrange : m.memory.InRange m.index count ↔ ¬0x1000 < m.index + max count 1 := by
    rw [Memory.InRange, h.memory_size]
    omega
  rw [accessFailure?, h.top_memory]
  by_cases haccess : 0x1000 < m.index + max count 1
  · rw [if_neg fun hin => hrange.1 hin haccess]
    exact ⟨fun h => ⟨haccess, (Option.some.inj h).symm⟩, fun h => congrArg some h.2.symm⟩
  · rw [if_pos (hrange.2 haccess)]
    exact ⟨fun h => absurd h.symm (Option.some_ne_none failure), fun h => absurd h.1 haccess⟩

/-- A call fails exactly if the stack is full. -/
theorem failure?_call_eq_some_iff (h : m.WellFormed) {target : Fin 0x1000} {failure : Failure} :
    m.failure? (.call target) = some failure ↔
      m.stack.depth = 16 ∧ failure = .machine (.stackOverflow 16) := by
  have hdepth := h.stack_depth
  rw [failure?, h.stack_limit]
  by_cases hfull : m.stack.depth = 16
  · rw [if_neg (by omega)]
    simp [hfull, eq_comm]
  · rw [if_pos (by omega)]
    simp [hfull]

/-- No side of the display is empty, so a draw fails only on its sprite. -/
theorem failure?_draw (h : m.WellFormed) (x y rows : Digit) :
    m.failure? (.draw x y rows) = m.accessFailure? rows.val := by
  have hsides : ¬(m.display.width = 0 ∨ m.display.height = 0) := by
    rw [h.display_width, h.display_height]
    decide
  rw [failure?, if_neg hsides, Option.or_none]

/-- The instruction of a word that reads or writes at the index fails as the access does. -/
theorem failure?_of_accesses (h : m.WellFormed) {w : Word} {count : Nat}
    (haccess : Accesses w count) : ∃ i, Row w i ∧ m.failure? i = m.accessFailure? count := by
  cases haccess with
  | draw x y n => exact ⟨_, .draw x y n, h.failure?_draw x y n⟩
  | decimal x => exact ⟨_, .decimal x, rfl⟩
  | save x => exact ⟨_, .save x, rfl⟩
  | restore x => exact ⟨_, .restore x, rfl⟩

/-! ## The faults are those of the list -/

/-- **The failure of an instruction stands in the list.** -/
theorem fault_of_failure? (h : m.WellFormed) {i : Instruction} {failure : Failure}
    (hbegins : m.Begins i) (hfailure : m.begun.failure? i = some failure) :
    ∃ fault, failure = .machine fault ∧ Fault m fault := by
  have hpc := h.inRange_pc_iff.1 hbegins.inRange
  have hbegun := h.begun hbegins.inRange
  have haccess {count : Nat} (hcount : Accesses m.nextWord count)
      (hfailure : m.begun.accessFailure? count = some failure) :
      ∃ fault, failure = .machine fault ∧ Fault m fault := by
    obtain ⟨hhigh, rfl⟩ := hbegun.accessFailure?_eq_some_iff.1 hfailure
    exact ⟨_, rfl, .access count hpc hcount hhigh⟩
  obtain ⟨-, -, hrow⟩ := hbegins
  generalize hword : m.nextWord = w at hrow
  rw [hword] at haccess
  cases hrow with
  | ret =>
    obtain ⟨hempty, rfl⟩ := failure?_ret_eq_some_iff.1 hfailure
    exact ⟨_, rfl, .ret hpc hword hempty⟩
  | call x y n =>
    obtain ⟨hfull, rfl⟩ := hbegun.failure?_call_eq_some_iff.1 hfailure
    exact ⟨_, rfl, .call x y n hpc hword hfull⟩
  | draw x y n =>
    rw [hbegun.failure?_draw] at hfailure
    exact haccess (.draw x y n) hfailure
  | decimal x => exact haccess (.decimal x) hfailure
  | save x => exact haccess (.save x) hfailure
  | restore x => exact haccess (.restore x) hfailure
  | _ => exact absurd hfailure.symm (Option.some_ne_none failure)

/-- A failure of the instruction of the next word is the result of the step. -/
theorem result_of_row (h : m.WellFormed) (hidle : m.wait.active = false) (hpc : m.pc ≤ 0xFFE)
    {w : Word} {i : Instruction} {failure : Failure} (hword : m.nextWord = w) (hrow : Row w i)
    (hfailure : m.begun.failure? i = some failure) : m.step.result = .error failure := by
  rw [← hword] at hrow
  rw [step_of_failure ⟨hidle, h.inRange_pc_iff.2 hpc, hrow⟩ hfailure]

/-- **Every fault of the list happens.** -/
theorem result_of_fault (h : m.WellFormed) (hidle : m.wait.active = false) {fault : MachineFault}
    (hfault : Fault m fault) : m.step.result = .error (.machine fault) := by
  cases hfault with
  | fetch hpc =>
    have hrange : ¬m.memory.InRange m.pc 2 := fun hin => by
      have hpc' := h.inRange_pc_iff.1 hin
      omega
    rw [step_of_not_inRange hidle hrange, h.top_memory]
  | decode hpc hrow =>
    rw [step_of_no_row hidle (h.inRange_pc_iff.2 hpc) hrow]
    rfl
  | ret hpc hword hempty =>
    exact h.result_of_row hidle hpc hword .ret (failure?_ret_eq_some_iff.2 ⟨hempty, rfl⟩)
  | call x y n hpc hword hfull =>
    have hbegun := h.begun (h.inRange_pc_iff.2 hpc)
    refine h.result_of_row hidle hpc hword (.call x y n) ?_
    exact hbegun.failure?_call_eq_some_iff.2 ⟨hfull, rfl⟩
  | access count hpc haccess hhigh =>
    have hbegun := h.begun (h.inRange_pc_iff.2 hpc)
    obtain ⟨i, hrow, hfailure⟩ := hbegun.failure?_of_accesses haccess
    refine h.result_of_row hidle hpc rfl hrow ?_
    rw [hfailure]
    exact hbegun.accessFailure?_eq_some_iff.2 ⟨hhigh, rfl⟩

/-- **A step that does not wait either fails with a fault of the list or runs an instruction.** -/
theorem step_result_cases (h : m.WellFormed) (hidle : m.wait.active = false) :
    (∃ fault, m.step.result = .error (.machine fault) ∧ Fault m fault) ∨
      m.step.result = .ok true := by
  rcases m.step_cases with hwait | ⟨-, hrange⟩ | ⟨-, hrange, hrow⟩ | ⟨i, next, hbegins, hrun⟩ |
    ⟨i, failure, hbegins, hfailure⟩
  · rw [hidle] at hwait
    nomatch hwait
  · have hpc : 0xFFE < m.pc := Int.not_le.1 fun hpc => hrange (h.inRange_pc_iff.2 hpc)
    exact .inl ⟨_, h.result_of_fault hidle (.fetch hpc), .fetch hpc⟩
  · have hpc := h.inRange_pc_iff.1 hrange
    exact .inl ⟨_, h.result_of_fault hidle (.decode hpc hrow), .decode hpc hrow⟩
  · exact .inr (by rw [step_of_ok hbegins hrun])
  · obtain ⟨fault, rfl, hfault⟩ := h.fault_of_failure? hbegins hfailure
    exact .inl ⟨fault, h.result_of_fault hidle hfault, hfault⟩

/-- **A step fails with the faults of the list and with no other.** -/
theorem step_eq_fault_iff (h : m.WellFormed) (hidle : m.wait.active = false)
    {fault : MachineFault} : m.step.result = .error (.machine fault) ↔ Fault m fault := by
  refine ⟨fun hresult => ?_, h.result_of_fault hidle⟩
  obtain ⟨fault', hresult', hfault⟩ | hok := h.step_result_cases hidle
  · rw [hresult'] at hresult
    obtain rfl : fault' = fault := Failure.machine.inj (Except.error.inj hresult)
    exact hfault
  · rw [hok] at hresult
    nomatch hresult

end WellFormed

/-! ## The condition of every outcome -/

/-- The next step would read or write past the top of memory. -/
inductive RunsPastTop (m : Machine) : Prop where
  /-- The word itself. -/
  | word (hpc : 0xFFE < m.pc)
  /-- A sprite, of one row if it has none. -/
  | draw (x y n : Digit) (hword : m.nextWord = ⟨0xD, x, y, n⟩)
    (hhigh : 0x1000 < m.index + max n.val 1)
  /-- Three decimal digits. -/
  | decimal (x : Digit) (hword : m.nextWord = ⟨0xF, x, 0x3, 0x3⟩) (hhigh : 0x1000 < m.index + 3)
  /-- Registers 0 to `x`. -/
  | save (x : Digit) (hword : m.nextWord = ⟨0xF, x, 0x5, 0x5⟩)
    (hhigh : 0x1000 < m.index + x.val + 1)
  | restore (x : Digit) (hword : m.nextWord = ⟨0xF, x, 0x6, 0x5⟩)
    (hhigh : 0x1000 < m.index + x.val + 1)

/-- The next step would return from no call. -/
structure ReturnsFromNone (m : Machine) : Prop where
  pc_bound : m.pc ≤ 0xFFE
  word : m.nextWord = ⟨0x0, 0x0, 0xE, 0xE⟩
  empty : m.stack.toList = []

/-- The next step would call with sixteen calls in progress. -/
structure CallsTooDeep (m : Machine) : Prop where
  pc_bound : m.pc ≤ 0xFFE
  word : ∃ x y n : Digit, m.nextWord = ⟨0x2, x, y, n⟩
  full : m.stack.toList.length = 16

/-- The next word matches no row of the instruction table. -/
structure MatchesNoRow (m : Machine) : Prop where
  pc_bound : m.pc ≤ 0xFFE
  no_row : ∀ i, ¬Row m.nextWord i

namespace Fault

variable {m : Machine}

/-- An access of the next instruction that runs past the top is a fault, as is a word there. -/
theorem of_accesses {w : Word} {count : Nat} (hword : m.nextWord = w) (haccess : Accesses w count)
    (hhigh : 0x1000 < m.index + max count 1) :
    ∃ count location top, Fault m (.outOfBounds count location top) := by
  rw [← hword] at haccess
  by_cases hpc : m.pc ≤ 0xFFE
  · exact ⟨_, _, _, .access count hpc haccess hhigh⟩
  · exact ⟨_, _, _, .fetch (Int.not_le.1 hpc)⟩

theorem exists_outOfBounds_iff :
    (∃ count location top, Fault m (.outOfBounds count location top)) ↔ m.RunsPastTop := by
  constructor
  · rintro ⟨count, location, top, hfault⟩
    cases hfault with
    | fetch hpc => exact .word hpc
    | access count hpc haccess hhigh =>
      generalize hword : m.nextWord = w at haccess
      cases haccess with
      | draw x y n => exact .draw x y n hword hhigh
      | decimal x => exact .decimal x hword hhigh
      | save x => exact .save x hword (by omega)
      | restore x => exact .restore x hword (by omega)
  · intro h
    cases h with
    | word hpc => exact ⟨_, _, _, .fetch hpc⟩
    | draw x y n hword hhigh => exact of_accesses hword (.draw x y n) hhigh
    | decimal x hword hhigh => exact of_accesses hword (.decimal x) hhigh
    | save x hword hhigh => exact of_accesses hword (.save x) (by omega)
    | restore x hword hhigh => exact of_accesses hword (.restore x) (by omega)

theorem stackUnderflow_iff : Fault m .stackUnderflow ↔ m.ReturnsFromNone := by
  constructor
  · rintro (_ | _ | ⟨hpc, hword, hempty⟩)
    exact ⟨hpc, hword, List.reverse_eq_nil_iff.2 hempty⟩
  · rintro ⟨hpc, hword, hempty⟩
    exact .ret hpc hword (List.reverse_eq_nil_iff.1 hempty)

theorem exists_stackOverflow_iff :
    (∃ limit, Fault m (.stackOverflow limit)) ↔ m.CallsTooDeep := by
  constructor
  · rintro ⟨limit, _ | _ | _ | ⟨x, y, n, hpc, hword, hfull⟩⟩
    exact ⟨hpc, ⟨x, y, n, hword⟩, (CallStack.length_toList _).trans hfull⟩
  · rintro ⟨hpc, ⟨x, y, n, hword⟩, hfull⟩
    exact ⟨16, .call x y n hpc hword ((CallStack.length_toList _).symm.trans hfull)⟩

theorem exists_invalidOpcode_iff :
    (∃ opcode address report, Fault m (.invalidOpcode opcode address report)) ↔
      m.MatchesNoRow := by
  constructor
  · rintro ⟨opcode, address, report, _ | ⟨hpc, hrow⟩⟩
    exact ⟨hpc, hrow⟩
  · rintro ⟨hpc, hrow⟩
    exact ⟨_, _, _, .decode hpc hrow⟩

/-- The report of a word names the word and its address. -/
theorem opcode_address {opcode address : Int} {report : String}
    (h : Fault m (.invalidOpcode opcode address report)) :
    opcode = m.nextWord.toNat ∧ address = m.pc := by
  cases h
  exact ⟨rfl, rfl⟩

/-- Every fault has its condition. -/
theorem condition {fault : MachineFault} (h : Fault m fault) :
    m.RunsPastTop ∨ m.ReturnsFromNone ∨ m.CallsTooDeep ∨ m.MatchesNoRow := by
  cases fault with
  | outOfBounds => exact .inl (exists_outOfBounds_iff.1 ⟨_, _, _, h⟩)
  | stackUnderflow => exact .inr (.inl (stackUnderflow_iff.1 h))
  | stackOverflow => exact .inr (.inr (.inl (exists_stackOverflow_iff.1 ⟨_, h⟩)))
  | invalidOpcode => exact .inr (.inr (.inr (exists_invalidOpcode_iff.1 ⟨_, _, _, h⟩)))
  | programTooLarge => nomatch h

end Fault

/-- **The exact condition of every outcome.**  A machine that waits does not fail.  Any other fails in
one of four ways, each under its own condition, and runs an instruction under none of them. -/
theorem Reachable.step_outcome {m : Machine} (h : Reachable m) :
    (m.wait.active = true → ∃ ran, m.step.result = .ok ran) ∧
      (m.wait.active = false →
        ((∃ count location top,
            m.step.result = .error (.machine (.outOfBounds count location top))) ↔
          m.RunsPastTop) ∧
        (m.step.result = .error (.machine .stackUnderflow) ↔ m.ReturnsFromNone) ∧
        ((∃ limit, m.step.result = .error (.machine (.stackOverflow limit))) ↔ m.CallsTooDeep) ∧
        ((∃ opcode address report,
            m.step.result = .error (.machine (.invalidOpcode opcode address report))) ↔
          m.MatchesNoRow) ∧
        (∀ opcode address report,
          m.step.result = .error (.machine (.invalidOpcode opcode address report)) →
            opcode = m.nextWord.toNat ∧ address = m.pc) ∧
        (¬m.RunsPastTop → ¬m.ReturnsFromNone → ¬m.CallsTooDeep → ¬m.MatchesNoRow →
          m.step.result = .ok true) ∧
        ∀ failure, m.step.result = .error failure →
          ∃ fault, failure = .machine fault ∧ Fault m fault) := by
  have hm := h.wellFormed
  refine ⟨fun hwait => ⟨_, by rw [step_of_wait hwait]⟩, fun hidle => ?_⟩
  simp only [hm.step_eq_fault_iff hidle]
  refine ⟨Fault.exists_outOfBounds_iff, Fault.stackUnderflow_iff, Fault.exists_stackOverflow_iff,
    Fault.exists_invalidOpcode_iff, fun _ _ _ => Fault.opcode_address, ?_, ?_⟩
  · intro htop hreturn hcall hrow
    obtain ⟨fault, -, hfault⟩ | hok := hm.step_result_cases hidle
    · have hcondition := hfault.condition
      simp only [htop, hreturn, hcall, hrow, or_self] at hcondition
    · exact hok
  · intro failure hresult
    obtain ⟨fault, hresult', hfault⟩ | hok := hm.step_result_cases hidle
    · rw [hresult'] at hresult
      exact ⟨fault, (Except.error.inj hresult).symm, hfault⟩
    · rw [hok] at hresult
      nomatch hresult

/-- A return with no call in progress, on the first word of a program. -/
theorem Reachable.step_outcome_ret :
    let m := booted [0x00, 0xEE] [] false
    m.ReturnsFromNone ∧ m.step.result = .error (.machine .stackUnderflow) := by
  have hreturn : (booted [0x00, 0xEE] [] false).ReturnsFromNone :=
    ⟨by decide, by decide +kernel, rfl⟩
  have hbooted : Reachable (booted [0x00, 0xEE] [] false) := .of_booted (by decide) [] false
  obtain ⟨-, hidle⟩ := Reachable.step_outcome hbooted
  obtain ⟨-, hunderflow, -⟩ := hidle rfl
  exact ⟨hreturn, hunderflow.2 hreturn⟩

end ChipEight.Machine
