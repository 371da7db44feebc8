import ChipEight.Machine.Step

/-!
# Proofs/Machine/Effect — what an instruction does in every case, and when it fails

Most effects only change the machine.  The five that may fail each come with an equation for all
cases; from these follows when an instruction fails, and that it has changed nothing by then.

* `failure?` — why an instruction fails on a machine, in terms of the machine alone;
* `run_store_eq_ok_iff` and its like — when an effect succeeds, and with what;
* `run_execute_eq_error_iff` — an instruction fails for that reason and no other, with nothing changed.
-/

namespace ChipEight.Machine

open Instruction

/-! ## The effects that may fail -/

/-- **A return** takes the program counter from the stack. -/
theorem run_returnFromCall (m : Machine) :
    returnFromCall.run m =
      match m.stack.entries with
      | pc :: rest => .ok () { m with stack := { m.stack with entries := rest }, pc }
      | [] => .error (.machine .stackUnderflow) m := by
  split
  · next pc rest h =>
    have hpop : m.stack.pop = .ok (pc, { m.stack with entries := rest }) :=
      CallStack.pop_eq_ok_iff.2 ⟨h, rfl⟩
    simp only [returnFromCall, EStateM.run_bind, EStateM.run_get, hpop, run_attempt_ok,
      EStateM.run_set]
  · next h =>
    have hpop : m.stack.pop = .error (.machine .stackUnderflow) :=
      CallStack.pop_eq_error_iff.2 ⟨h, rfl⟩
    simp only [returnFromCall, EStateM.run_bind, EStateM.run_get, hpop, run_attempt_error]

/-- **A call** puts the program counter on the stack. -/
theorem run_callTo (m : Machine) (target : Int) :
    (callTo target).run m =
      if (m.stack.depth : Int) < m.stack.limit then
        .ok () { m with stack := { m.stack with entries := m.pc :: m.stack.entries }, pc := target }
      else .error (.machine (.stackOverflow m.stack.limit)) m := by
  split
  · next h =>
    have hpush : m.stack.push m.pc = .ok { m.stack with entries := m.pc :: m.stack.entries } :=
      CallStack.push_eq_ok_iff.2 ⟨h, rfl⟩
    simp only [callTo, EStateM.run_bind, EStateM.run_get, hpush, run_attempt_ok, EStateM.run_set,
      EStateM.run_modify]
  · next h =>
    have hpush : m.stack.push m.pc = .error (.machine (.stackOverflow m.stack.limit)) :=
      CallStack.push_eq_error_iff.2 ⟨Int.not_lt.1 h, rfl⟩
    simp only [callTo, EStateM.run_bind, EStateM.run_get, hpush, run_attempt_error]

/-- **A write** lays its bytes over memory from the index on. -/
theorem run_store (m : Machine) (bytes : List UInt8) :
    (store bytes).run m =
      if m.memory.InRange m.index bytes.length then
        .ok () { m with memory := ⟨Memory.patch m.memory.cells m.index.toNat bytes⟩ }
      else .error (.machine (.outOfBounds bytes.length m.index m.memory.top)) m := by
  split
  · next h =>
    simp only [store, EStateM.run_bind, EStateM.run_get, Memory.writeBytes_of_inRange h,
      run_attempt_ok, EStateM.run_set]
  · next h =>
    simp only [store, EStateM.run_bind, EStateM.run_get, Memory.writeBytes_of_not_inRange h,
      run_attempt_error]

/-- **A restore** fills registers 0 to `x` from memory. -/
theorem run_restoreFrom (m : Machine) (x : Digit) :
    (restoreFrom x).run m =
      if m.memory.InRange m.index (x.val + 1 : Nat) then
        .ok () { m with
          registers := fillRegs m.registers 0 (m.memory.bytesAt m.index.toNat (x.val + 1)) }
      else .error (.machine (.outOfBounds (x.val + 1 : Nat) m.index m.memory.top)) m := by
  split
  · next h =>
    simp only [restoreFrom, EStateM.run_bind, EStateM.run_get, Memory.readBlock_of_inRange h,
      run_attempt_ok, EStateM.run_set]
  · next h =>
    simp only [restoreFrom, EStateM.run_bind, EStateM.run_get, Memory.readBlock_of_not_inRange h,
      run_attempt_error]

/-- The display after a draw at the index, and whether a lit pixel was switched off. -/
def drawing (m : Machine) (x y : Digit) (rows : Nat) : Framebuffer × Bool :=
  m.display.flipSpots (Int.fmod (m.reg x).toNat m.display.width)
    (Int.fmod (m.reg y).toNat m.display.height)
    (Framebuffer.spots (m.memory.bytesAt m.index.toNat rows))

/-- **A draw** reads its whole sprite before it flips a pixel. -/
theorem run_drawAt (m : Machine) (x y : Digit) (rows : Nat) :
    (drawAt x y rows).run m =
      if m.memory.InRange m.index rows then
        if m.display.width = 0 ∨ m.display.height = 0 then .error .emptySide m
        else .ok () ({ m with display := (m.drawing x y rows).1 }.setReg flagRegister
          (if (m.drawing x y rows).2 then 1 else 0))
      else .error (.machine (.outOfBounds rows m.index m.memory.top)) m := by
  split
  · next h =>
    simp only [drawAt, EStateM.run_bind, EStateM.run_get, Memory.readBlock_of_inRange h,
      run_attempt_ok]
    split
    · next hside => rfl
    · next hside =>
      have hdraw : m.display.drawSprite (Int.fmod (m.reg x).toNat m.display.width)
          (Int.fmod (m.reg y).toNat m.display.height) (m.memory.bytesAt m.index.toNat rows) =
          .ok (m.drawing x y rows) :=
        Framebuffer.drawSprite_of_sides (fun h => hside (.inl h)) fun h => hside (.inr h)
      simp only [EStateM.run_bind, hdraw, run_attempt_ok, EStateM.run_set,
        EStateM.run_modify]
  · next h =>
    simp only [drawAt, EStateM.run_bind, EStateM.run_get, Memory.readBlock_of_not_inRange h,
      run_attempt_error]

/-! ## When an effect succeeds, and with what -/

theorem run_returnFromCall_eq_ok_iff {m next : Machine} :
    returnFromCall.run m = .ok () next ↔
      ∃ pc rest, m.stack.entries = pc :: rest ∧
        next = { m with stack := { m.stack with entries := rest }, pc } := by
  rw [run_returnFromCall]
  rcases m.stack.entries with _ | ⟨pc, rest⟩
  · simp
  · constructor
    · intro h
      exact ⟨pc, rest, rfl, (EStateM.Result.ok.inj h).2.symm⟩
    · rintro ⟨pc', rest', hentries, rfl⟩
      obtain ⟨rfl, rfl⟩ := List.cons.inj hentries
      rfl

theorem run_callTo_eq_ok_iff {m next : Machine} {target : Int} :
    (callTo target).run m = .ok () next ↔
      (m.stack.depth : Int) < m.stack.limit ∧
        next = { m with
          stack := { m.stack with entries := m.pc :: m.stack.entries }, pc := target } := by
  rw [run_callTo]
  split
  · next h => simp [h, eq_comm]
  · next h => simp [h]

theorem run_store_eq_ok_iff {m next : Machine} {bytes : List UInt8} :
    (store bytes).run m = .ok () next ↔
      m.memory.InRange m.index bytes.length ∧
        next = { m with memory := ⟨Memory.patch m.memory.cells m.index.toNat bytes⟩ } := by
  rw [run_store]
  split
  · next h => simp [h, eq_comm]
  · next h => simp [h]

theorem run_restoreFrom_eq_ok_iff {m next : Machine} {x : Digit} :
    (restoreFrom x).run m = .ok () next ↔
      m.memory.InRange m.index (x.val + 1 : Nat) ∧
        next = { m with
          registers := fillRegs m.registers 0 (m.memory.bytesAt m.index.toNat (x.val + 1)) } := by
  rw [run_restoreFrom]
  split
  · next h => simp only [h, true_and, EStateM.Result.ok.injEq, eq_comm]
  · next h => simp only [h, false_and, reduceCtorEq]

theorem run_drawAt_eq_ok_iff {m next : Machine} {x y : Digit} {rows : Nat} :
    (drawAt x y rows).run m = .ok () next ↔
      m.memory.InRange m.index rows ∧ ¬(m.display.width = 0 ∨ m.display.height = 0) ∧
        next = { m with display := (m.drawing x y rows).1 }.setReg flagRegister
          (if (m.drawing x y rows).2 then 1 else 0) := by
  rw [run_drawAt]
  split
  · next h =>
    split
    · next hside => simp only [hside, not_true_eq_false, false_and, and_false, reduceCtorEq]
    · next hside =>
      simp only [h, hside, not_false_eq_true, true_and, EStateM.Result.ok.injEq, eq_comm]
  · next h => simp only [h, false_and, reduceCtorEq]

/-! ## When an instruction fails -/

/-- Why an access of `count` bytes at the index fails. -/
def accessFailure? (m : Machine) (count : Nat) : Option Failure :=
  if m.memory.InRange m.index count then none
  else some (.machine (.outOfBounds count m.index m.memory.top))

/-- **Why an instruction fails on a machine**, `none` if it does not. -/
def failure? (m : Machine) : Instruction → Option Failure
  | .ret => if m.stack.entries = [] then some (.machine .stackUnderflow) else none
  | .call _ =>
    if (m.stack.depth : Int) < m.stack.limit then none
    else some (.machine (.stackOverflow m.stack.limit))
  | .draw _ _ rows =>
    (m.accessFailure? rows.val).or
      (if m.display.width = 0 ∨ m.display.height = 0 then some .emptySide else none)
  | .decimal _ => m.accessFailure? 3
  | .save x => m.accessFailure? (x.val + 1)
  | .restore x => m.accessFailure? (x.val + 1)
  | _ => none

/-- A write fails if its bytes do not all lie in memory, with nothing changed. -/
theorem run_store_eq_error_iff {m left : Machine} {bytes : List UInt8} {failure : Failure} :
    (store bytes).run m = .error failure left ↔
      m.accessFailure? bytes.length = some failure ∧ left = m := by
  rw [run_store, accessFailure?]
  split
  · simp
  · simp [eq_comm]

/-- The decimal digits of a register are written at the index. -/
theorem run_decimal (m : Machine) (x : Digit) :
    (execute (.decimal x)).run m = (store (decimalDigits (m.reg x))).run m := rfl

/-- Registers 0 to `x` are written at the index. -/
theorem run_save (m : Machine) (x : Digit) :
    (execute (.save x)).run m = (store (m.registers.toList.take (x.val + 1))).run m := rfl

/-- A byte has three decimal digits. -/
@[simp] theorem length_decimalDigits (b : UInt8) : (decimalDigits b).length = 3 := rfl

/-- There is a register for every digit. -/
@[simp] theorem length_take_registers (m : Machine) (x : Digit) :
    (m.registers.toList.take (x.val + 1)).length = x.val + 1 := by
  rw [List.length_take, Vector.length_toList]
  omega

/-- **An instruction fails for that reason and no other, with nothing changed.** -/
theorem run_execute_eq_error_iff {m left : Machine} {i : Instruction} {failure : Failure} :
    (execute i).run m = .error failure left ↔ m.failure? i = some failure ∧ left = m := by
  cases i with
  | ret =>
    rw [execute, run_returnFromCall, failure?]
    split
    · next h => simp [h]
    · next h => simp [h, eq_comm]
  | call target =>
    rw [execute, run_callTo, failure?]
    split
    · simp
    · simp [eq_comm]
  | draw x y rows =>
    rw [execute, run_drawAt, failure?, accessFailure?]
    split
    · split
      · simp [eq_comm]
      · simp
    · simp [eq_comm]
  | decimal x => rw [run_decimal, run_store_eq_error_iff, length_decimalDigits, failure?]
  | save x => rw [run_save, run_store_eq_error_iff, length_take_registers, failure?]
  | restore x =>
    rw [execute, run_restoreFrom, failure?, accessFailure?]
    split
    · simp
    · simp [eq_comm]
  | _ => exact ⟨nofun, fun h => nomatch h.1⟩

/-- An instruction with no reason to fail runs. -/
theorem exists_run_execute {m : Machine} {i : Instruction} (h : m.failure? i = none) :
    ∃ next, (execute i).run m = .ok () next := by
  rcases hrun : (execute i).run m with ⟨⟨⟩, next⟩ | ⟨failure, left⟩
  · exact ⟨next, rfl⟩
  · obtain ⟨hfailure, -⟩ := run_execute_eq_error_iff.1 hrun
    rw [h] at hfailure
    nomatch hfailure

/-- An instruction that runs has no reason to fail. -/
theorem failure?_of_run_execute {m next : Machine} {i : Instruction}
    (h : (execute i).run m = .ok () next) : m.failure? i = none := by
  rw [Option.eq_none_iff_forall_ne_some]
  intro failure hfailure
  have hrun := run_execute_eq_error_iff.2 ⟨hfailure, rfl⟩
  rw [h] at hrun
  nomatch hrun

/-! ## The word that was fetched -/

/-- The word that was fetched runs as the instruction that the look-ups find. -/
theorem run_runOpcode_of_decode? {m : Machine} {i : Instruction} (h : decode? m.opcode = some i) :
    runOpcode.run m = (execute i).run m := by
  rw [runOpcode, EStateM.run_bind, EStateM.run_get]
  simp only [h]

/-- A word that is no instruction is a fault, with nothing changed. -/
theorem run_runOpcode_of_decode?_eq_none {m : Machine} (h : decode? m.opcode = none) :
    runOpcode.run m = .error m.invalidOpcode m := by
  rw [runOpcode, EStateM.run_bind, EStateM.run_get]
  simp only [h]
  rfl

end ChipEight.Machine
