import ChipEight.Proofs.Machine.Run
import ChipEight.Proofs.Machine.Step

/-!
# Proofs/Machine/Bounds — the bounds that every reachable machine keeps

The bound on the program counter rests on three others: a fetch succeeds only below the top of
memory, a return address is one that a call has left, and register 0 is a byte.  `WellFormed` holds
them all together, and every move keeps it.

* `WellFormed.execute` — an instruction keeps the bounds, one case an instruction;
* `WellFormed.after` — so does every move;
* `Reachable.wellFormed` — hence **every reachable machine is well-formed**.
-/

namespace ChipEight.Machine

open Instruction

/-- The bounds of a machine in use. -/
structure WellFormed (m : Machine) : Prop where
  index_bounds : 0 ≤ m.index ∧ m.index ≤ 0xFFFF
  /-- The highest address that a jump with an offset names lies above the top of memory. -/
  pc_bounds : 0 ≤ m.pc ∧ m.pc ≤ 0x10FE
  opcode_bounds : 0 ≤ m.opcode ∧ m.opcode ≤ 0xFFFF
  stack_limit : m.stack.limit = 16
  stack_depth : m.stack.depth ≤ 16
  /-- A return address follows a call that was fetched. -/
  return_bounds : ∀ entry ∈ m.stack.entries, 2 ≤ entry ∧ entry ≤ 0x1000
  memory_size : m.memory.size = 0x1000
  display_width : m.display.width = 64
  display_height : m.display.height = 32
  display_size : m.display.pixels.size = 2048
  /-- Only a wait holds keys. -/
  held_idle : m.wait.active = false → m.wait.held = ∅

namespace WellFormed

variable {m : Machine}

/-! ## Changes of one part -/

theorem withRegisters (h : m.WellFormed) (registers : Vector UInt8 16) :
    ({ m with registers } : Machine).WellFormed := { h with }

theorem setReg (h : m.WellFormed) (x : Digit) (b : UInt8) : (m.setReg x b).WellFormed :=
  h.withRegisters _

theorem setRegFlag (h : m.WellFormed) (x : Digit) (b : UInt8) (flag : Bool) :
    (m.setRegFlag x b flag).WellFormed :=
  (h.setReg x b).setReg _ _

theorem withPc (h : m.WellFormed) {pc : Int} (hpc : 0 ≤ pc ∧ pc ≤ 0x10FE) :
    ({ m with pc } : Machine).WellFormed := { h with pc_bounds := hpc }

theorem withIndex (h : m.WellFormed) {index : Int} (hindex : 0 ≤ index ∧ index ≤ 0xFFFF) :
    ({ m with index } : Machine).WellFormed := { h with index_bounds := hindex }

theorem withOrigin (h : m.WellFormed) (origin : Int) :
    ({ m with origin } : Machine).WellFormed := { h with }

theorem withTimers (h : m.WellFormed) (timers : Timers) :
    ({ m with timers } : Machine).WellFormed := { h with }

theorem withKeypad (h : m.WellFormed) (keypad : KeySet) :
    ({ m with keypad } : Machine).WellFormed := { h with }

theorem withMemory (h : m.WellFormed) {memory : Memory} (hsize : memory.size = m.memory.size) :
    ({ m with memory } : Machine).WellFormed :=
  { h with memory_size := hsize.trans h.memory_size }

theorem withEntries (h : m.WellFormed) {entries : List Int} (hdepth : entries.length ≤ 16)
    (hreturn : ∀ entry ∈ entries, 2 ≤ entry ∧ entry ≤ 0x1000) :
    ({ m with stack := { m.stack with entries } } : Machine).WellFormed :=
  { h with stack_depth := hdepth, return_bounds := hreturn }

/-- A skip moves on from an address below the highest. -/
theorem skipIf (h : m.WellFormed) (hpc : m.pc ≤ 0x1000) (condition : Bool) :
    (m.skipIf condition).WellFormed := by
  obtain ⟨hlow, -⟩ := h.pc_bounds
  cases condition with
  | false => exact h
  | true => exact h.withPc ⟨by omega, by omega⟩

/-- A display of the same shape. -/
theorem withDisplay (h : m.WellFormed) {display : Framebuffer}
    (hshape : display.width = m.display.width ∧ display.height = m.display.height
      ∧ display.pixels.size = m.display.pixels.size) :
    ({ m with display } : Machine).WellFormed :=
  { h with
    display_width := hshape.1.trans h.display_width
    display_height := hshape.2.1.trans h.display_height
    display_size := hshape.2.2.trans h.display_size }

theorem withWait (h : m.WellFormed) {wait : KeyWait}
    (hidle : wait.active = false → wait.held = ∅) : ({ m with wait } : Machine).WellFormed :=
  { h with held_idle := hidle }

/-- A look at the keypad ends the wait with no key held, or goes on with it. -/
theorem checkKeys (h : m.WellFormed) (hwait : m.wait.active = true) : m.checkKeys.1.WellFormed := by
  rw [Machine.checkKeys]
  rcases m.newKey? with _ | k
  · exact h.withWait fun hidle => nomatch hwait.symm.trans hidle
  · exact (h.setReg m.wait.register (UInt8.ofNat k.val)).withWait fun _ => rfl

/-! ## One case an instruction -/

/-- **An instruction keeps the bounds.**  When it begins, the program counter is where a fetch has
left it. -/
theorem execute (h : m.WellFormed) (hpc : 2 ≤ m.pc ∧ m.pc ≤ 0x1000) {i : Instruction}
    {next : Machine} (hrun : (execute i).run m = .ok () next) : next.WellFormed := by
  cases i with
  | clear =>
    obtain ⟨⟩ := hrun
    refine h.withDisplay ⟨rfl, rfl, ?_⟩
    rw [Framebuffer.clear, Framebuffer.size_dark, h.display_width, h.display_height, h.display_size]
    rfl
  | ret =>
    obtain ⟨pc, rest, hentries, rfl⟩ := run_returnFromCall_eq_ok_iff.1 hrun
    have hreturn := h.return_bounds
    have hdepth := h.stack_depth
    rw [CallStack.depth, hentries] at hdepth
    rw [hentries] at hreturn
    obtain ⟨hlow, hhigh⟩ := hreturn pc List.mem_cons_self
    have hrest := h.withEntries (Nat.le_of_succ_le hdepth)
      fun entry hentry => hreturn entry (List.mem_cons_of_mem pc hentry)
    exact hrest.withPc ⟨by omega, by omega⟩
  | jump target =>
    obtain ⟨⟩ := hrun
    have htarget := target.isLt
    exact h.withPc ⟨by omega, by omega⟩
  | call target =>
    obtain ⟨hroom, rfl⟩ := run_callTo_eq_ok_iff.1 hrun
    rw [h.stack_limit] at hroom
    have htarget := target.isLt
    have hdepth : (m.pc :: m.stack.entries).length ≤ 16 := by
      rw [List.length_cons]
      have : m.stack.entries.length = m.stack.depth := rfl
      omega
    have hreturn : ∀ entry ∈ m.pc :: m.stack.entries, 2 ≤ entry ∧ entry ≤ 0x1000 := by
      intro entry hentry
      rcases List.mem_cons.1 hentry with rfl | hentry
      · exact hpc
      · exact h.return_bounds entry hentry
    exact (h.withEntries hdepth hreturn).withPc ⟨by omega, by omega⟩
  | skipIfByte | skipUnlessByte | skipIfEqual | skipUnlessEqual | skipIfKey | skipUnlessKey =>
    obtain ⟨⟩ := hrun
    exact h.skipIf hpc.2 _
  | setByte | addByte | copy | bitOr | bitAnd | bitXor | getDelay =>
    obtain ⟨⟩ := hrun
    exact h.setReg _ _
  | add | sub | shiftRight | subFrom | shiftLeft =>
    obtain ⟨⟩ := hrun
    exact h.setRegFlag _ _ _
  | setIndex target =>
    obtain ⟨⟩ := hrun
    have htarget := target.isLt
    exact h.withIndex ⟨by omega, by omega⟩
  | jumpOffset base =>
    obtain ⟨⟩ := hrun
    have hbase := base.isLt
    have hoffset := (m.reg offsetRegister).toNat_lt
    exact h.withPc ⟨by omega, by omega⟩
  | random x mask =>
    obtain ⟨⟩ := hrun
    exact { h.setReg x (m.random.headD 0 &&& mask) with }
  | draw x y rows =>
    obtain ⟨-, -, rfl⟩ := run_drawAt_eq_ok_iff.1 hrun
    exact (h.withDisplay (Framebuffer.flipSpots_shape _ _ _ _)).setReg _ _
  | awaitKey x =>
    obtain ⟨⟩ := hrun
    exact h.withWait nofun
  | setDelay | setSound =>
    obtain ⟨⟩ := hrun
    exact h.withTimers _
  | addIndex x =>
    obtain ⟨⟩ := hrun
    exact h.withIndex ⟨by omega, by omega⟩
  | glyph x =>
    obtain ⟨⟩ := hrun
    have hdigit := (Digit.ofByte (m.reg x)).isLt
    refine h.withIndex ?_
    simp only [Font.address, Font.start, Font.glyphSize]
    omega
  | decimal x =>
    rw [run_decimal, run_store_eq_ok_iff] at hrun
    obtain ⟨-, rfl⟩ := hrun
    exact h.withMemory (Memory.size_patch _ _ _)
  | save x =>
    rw [run_save, run_store_eq_ok_iff] at hrun
    obtain ⟨-, rfl⟩ := hrun
    exact h.withMemory (Memory.size_patch _ _ _)
  | restore x =>
    obtain ⟨-, rfl⟩ := run_restoreFrom_eq_ok_iff.1 hrun
    exact h.withRegisters _

/-! ## Every move -/

/-- The next instruction begins two addresses on; the sixteen bits of the counter never run over. -/
theorem pc_begun (h : m.WellFormed) : m.begun.pc = m.pc + 2 := by
  obtain ⟨hlow, hhigh⟩ := h.pc_bounds
  change (m.pc + 2) % 0x10000 = m.pc + 2
  omega

/-- A fetch succeeds only below the top of memory. -/
theorem inRange_pc_iff (h : m.WellFormed) : m.memory.InRange m.pc 2 ↔ m.pc ≤ 0xFFE := by
  obtain ⟨hlow, -⟩ := h.pc_bounds
  rw [Memory.InRange, h.memory_size]
  omega

theorem fetched (h : m.WellFormed) (w : Word) : (m.fetched w.toNat).WellFormed := by
  have hword : 0 ≤ (w.toNat : Int) ∧ (w.toNat : Int) ≤ 0xFFFF := by
    rw [Word.toNat]
    omega
  exact { h with opcode_bounds := hword }

/-- The machine whose next instruction begins is well-formed. -/
theorem begun (h : m.WellFormed) (hrange : m.memory.InRange m.pc 2) : m.begun.WellFormed := by
  have hpc := h.inRange_pc_iff.1 hrange
  have hbegun := h.pc_begun
  obtain ⟨hlow, -⟩ := h.pc_bounds
  have hbounds : 0 ≤ m.begun.pc ∧ m.begun.pc ≤ 0x10FE := by omega
  exact (h.fetched m.nextWord).withPc hbounds

/-- **A step keeps the bounds**, also a step that fails. -/
theorem step (h : m.WellFormed) : m.step.machine.WellFormed := by
  rcases m.step_cases with hwait | ⟨hidle, hrange⟩ | ⟨hidle, hrange, hrow⟩ |
    ⟨i, next, hbegins, hrun⟩ | ⟨i, failure, hbegins, hfailure⟩
  · rw [machine_step_of_wait hwait]
    exact h.checkKeys hwait
  · rw [step_of_not_inRange hidle hrange]
    exact h.withOrigin m.pc
  · rw [step_of_no_row hidle hrange hrow]
    exact h.fetched m.nextWord
  · rw [step_of_ok hbegins hrun]
    have hpc := h.inRange_pc_iff.1 hbegins.inRange
    have hbegun := h.pc_begun
    obtain ⟨hlow, -⟩ := h.pc_bounds
    exact (h.begun hbegins.inRange).execute ⟨by omega, by omega⟩ hrun
  · rw [step_of_failure hbegins hfailure, afterFailure]
    split
    · exact (h.begun hbegins.inRange).withPc h.pc_bounds
    · exact h.begun hbegins.inRange

/-- **A move keeps the bounds.** -/
theorem after (h : m.WellFormed) (move : Move) : (m.after move).WellFormed := by
  cases move with
  | step => exact h.step
  | tick => exact h.withTimers _
  | setKey k down => exact h.withKeypad _
  | releaseAll => exact h.withKeypad _

/-- A program makes a well-formed machine. -/
theorem build {program : List Int} {random : List UInt8} {live : Bool}
    (hbuild : build program random live = .ok m) : m.WellFormed := by
  obtain ⟨-, bytes, -, rfl⟩ := build_eq_ok_iff.1 hbuild
  exact {
    index_bounds := by simp [booted, ofParts, programStart]
    pc_bounds := by simp [booted, ofParts, programStart]
    opcode_bounds := by simp [booted, ofParts, programStart]
    stack_limit := rfl
    stack_depth := Nat.zero_le 16
    return_bounds := nofun
    memory_size := size_image bytes
    display_width := rfl
    display_height := rfl
    display_size := Framebuffer.size_dark Framebuffer.displayWidth Framebuffer.displayHeight
    held_idle := fun _ => rfl }

end WellFormed

/-! ## Every reachable machine -/

/-- **Every reachable machine is well-formed.** -/
theorem Reachable.wellFormed {m : Machine} (h : Reachable m) : m.WellFormed := by
  induction h with
  | built hbuild => exact .build hbuild
  | after move _ ih => exact ih.after move

/-- **The bounds, part by part.**  The program counter can move on by one instruction, or by two for
a skip, without running over its sixteen bits. -/
def WithinBounds (m : Machine) : Prop :=
  (m.registers.toList.length = 16 ∧ ∀ b ∈ m.registers.toList, b.toNat ≤ 0xFF) ∧
    (0 ≤ m.index ∧ m.index ≤ 0xFFFF) ∧
    (0 ≤ m.pc ∧ m.pc ≤ 0x10FE) ∧
    (m.advancePc.pc = m.pc + 2 ∧ m.advancePc.advancePc.pc = m.pc + 4) ∧
    (0 ≤ m.opcode ∧ m.opcode ≤ 0xFFFF) ∧
    (m.stack.toList.length ≤ 16 ∧ ∀ entry ∈ m.stack.toList, 2 ≤ entry ∧ entry ≤ 0x1000) ∧
    (m.timers.delay.toNat ≤ 0xFF ∧ m.timers.sound.toNat ≤ 0xFF) ∧
    (m.memory.cells.toList.length = 4096 ∧ ∀ b ∈ m.memory.cells.toList, b.toNat ≤ 0xFF) ∧
    (m.display.width = 64 ∧ m.display.height = 32 ∧ m.display.pixels.toList.length = 2048) ∧
    m.wait.register.val ≤ 0xF ∧
    (∀ k ∈ m.wait.held.toList, k.val ≤ 0xF) ∧
    (m.wait.active = false → m.wait.held = ∅)

/-- **Every reachable machine keeps within its bounds**, whatever its program and its run. -/
theorem Reachable.withinBounds {m : Machine} (h : Reachable m) : m.WithinBounds := by
  have hm := h.wellFormed
  obtain ⟨hpclow, hpchigh⟩ := hm.pc_bounds
  have hbyte : ∀ b : UInt8, b.toNat ≤ 0xFF := fun b => Nat.le_of_lt_succ b.toNat_lt
  have hdigit : ∀ k : Digit, k.val ≤ 0xF := fun k => Nat.le_of_lt_succ k.isLt
  have hnext : m.advancePc.pc = m.pc + 2 := by
    change (m.pc + 2) % 0x10000 = m.pc + 2
    omega
  have hskip : m.advancePc.advancePc.pc = m.pc + 4 := by
    change (m.advancePc.pc + 2) % 0x10000 = m.pc + 4
    omega
  have hentries : ∀ entry ∈ m.stack.toList, 2 ≤ entry ∧ entry ≤ 0x1000 := fun entry hentry =>
    hm.return_bounds entry (List.mem_reverse.1 hentry)
  have hdepth : m.stack.toList.length ≤ 16 := by
    rw [CallStack.length_toList]
    exact hm.stack_depth
  exact ⟨⟨Vector.length_toList, fun b _ => hbyte b⟩, hm.index_bounds, hm.pc_bounds, ⟨hnext, hskip⟩,
    hm.opcode_bounds, ⟨hdepth, hentries⟩, ⟨hbyte _, hbyte _⟩, ⟨hm.memory_size, fun b _ => hbyte b⟩,
    ⟨hm.display_width, hm.display_height, hm.display_size⟩, hdigit _, fun k _ => hdigit k,
    hm.held_idle⟩

/-- The program counter gets as far as its bound: register 0 set to 0xFF, then a jump to 0xFFF plus
register 0, and a step there that fails. -/
theorem Reachable.withinBounds_highest_pc :
    let m := (booted [0x60, 0xFF, 0xBF, 0xFF] [] false).run [.step, .tick, .step, .step]
    m.pc = 0x10FE ∧ m.WithinBounds :=
  ⟨by decide +kernel, Reachable.withinBounds ((Reachable.of_booted (by decide) [] false).run _)⟩

end ChipEight.Machine
