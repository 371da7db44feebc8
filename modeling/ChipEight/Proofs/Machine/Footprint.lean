import ChipEight.Proofs.Machine.Step

/-!
# Proofs/Machine/Footprint — what a word may change, and that nothing else changes

A word has a footprint: the parts of the machine that it may write.  `Writes` is the table of the
footprints, one row a kind of word and a part; the bytes among these parts are those at the index.
The program counter, the word and the address that were taken up last are no parts in this sense:
every step moves them on.

* `Part.Same` — two machines agree on a part; one lemma for each way in which machines are changed;
* `same_of_run` — an instruction leaves the parts outside its word's footprint as they are;
* `step_frame` — so does a step, which writes **its footprint and nothing else**.
-/

namespace ChipEight.Machine

open Instruction

/-! ## Parts and footprints -/

/-- The parts of a machine that a word may write. -/
inductive Part where
  /-- The byte at an address. -/
  | byte (address : Nat)
  /-- The number of bytes. -/
  | size
  | display
  | stack
  | delay
  | sound
  | index
  | wait
  | keypad
  /-- The random bytes to come. -/
  | random
  | register (x : Digit)
  | live
deriving DecidableEq, Repr

/-- Two machines agree on a part. -/
def Part.Same (m next : Machine) : Part → Prop
  | .byte address => next.memory.cells[address]? = m.memory.cells[address]?
  | .size => next.memory.size = m.memory.size
  | .display => next.display = m.display
  | .stack => next.stack = m.stack
  | .delay => next.timers.delay = m.timers.delay
  | .sound => next.timers.sound = m.timers.sound
  | .index => next.index = m.index
  | .wait => next.wait = m.wait
  | .keypad => next.keypad = m.keypad
  | .random => next.random = m.random
  | .register x => next.reg x = m.reg x
  | .live => next.live = m.live

/-- **The footprints**: with the index at `index`, the word may write the part. -/
inductive Writes (index : Int) : Word → Part → Prop where
  | clear : Writes index ⟨0x0, 0x0, 0xE, 0x0⟩ .display
  | ret : Writes index ⟨0x0, 0x0, 0xE, 0xE⟩ .stack
  | call (x y n : Digit) : Writes index ⟨0x2, x, y, n⟩ .stack
  | setByte (x y n : Digit) : Writes index ⟨0x6, x, y, n⟩ (.register x)
  | addByte (x y n : Digit) : Writes index ⟨0x7, x, y, n⟩ (.register x)
  /-- The result of two registers. -/
  | result (x y n : Digit) : Writes index ⟨0x8, x, y, n⟩ (.register x)
  /-- The flag of a sum, a difference or a shift. -/
  | flag (x y n : Digit) (hn : n ∈ [0x4, 0x5, 0x6, 0x7, 0xE]) :
    Writes index ⟨0x8, x, y, n⟩ (.register flagRegister)
  | setIndex (x y n : Digit) : Writes index ⟨0xA, x, y, n⟩ .index
  | random (x y n : Digit) : Writes index ⟨0xC, x, y, n⟩ (.register x)
  /-- A random byte is used up. -/
  | roll (x y n : Digit) : Writes index ⟨0xC, x, y, n⟩ .random
  | draw (x y n : Digit) : Writes index ⟨0xD, x, y, n⟩ .display
  | collision (x y n : Digit) : Writes index ⟨0xD, x, y, n⟩ (.register flagRegister)
  | getDelay (x : Digit) : Writes index ⟨0xF, x, 0x0, 0x7⟩ (.register x)
  | awaitKey (x : Digit) : Writes index ⟨0xF, x, 0x0, 0xA⟩ .wait
  | setDelay (x : Digit) : Writes index ⟨0xF, x, 0x1, 0x5⟩ .delay
  | setSound (x : Digit) : Writes index ⟨0xF, x, 0x1, 0x8⟩ .sound
  | addIndex (x : Digit) : Writes index ⟨0xF, x, 0x1, 0xE⟩ .index
  | glyph (x : Digit) : Writes index ⟨0xF, x, 0x2, 0x9⟩ .index
  | decimal (x : Digit) {address : Nat} (hlow : index ≤ address) (hhigh : address < index + 3) :
    Writes index ⟨0xF, x, 0x3, 0x3⟩ (.byte address)
  | save (x : Digit) {address : Nat} (hlow : index ≤ address) (hhigh : address ≤ index + x.val) :
    Writes index ⟨0xF, x, 0x5, 0x5⟩ (.byte address)
  | restore (x y : Digit) (h : y ≤ x) : Writes index ⟨0xF, x, 0x6, 0x5⟩ (.register y)

/-! ## The ways in which a machine is changed -/

namespace Part

variable {m next last : Machine} {part : Part}

theorem Same.refl (m : Machine) (part : Part) : part.Same m m := by
  cases part <;> rfl

theorem Same.trans (h : part.Same m next) (h' : part.Same next last) : part.Same m last := by
  cases part <;> exact Eq.trans h' h

/-- The program counter is no part. -/
theorem same_withPc (pc : Int) : part.Same m { m with pc } := by
  cases part <;> rfl

theorem same_skipIf (condition : Bool) : part.Same m (m.skipIf condition) := by
  cases condition with
  | false => exact .refl m part
  | true => exact same_withPc _

/-- Where a step begins, only the program counter, the word and its address are new. -/
theorem same_begun : part.Same m m.begun := by
  cases part <;> rfl

theorem same_setReg {x : Digit} (h : part ≠ .register x) (b : UInt8) :
    part.Same m (m.setReg x b) := by
  cases part with
  | register y =>
    rw [Same, reg_setReg, if_neg]
    rintro rfl
    exact h rfl
  | _ => rfl

theorem same_setRegFlag {x : Digit} (h : part ≠ .register x) (hflag : part ≠ .register flagRegister)
    (b : UInt8) (flag : Bool) : part.Same m (m.setRegFlag x b flag) :=
  (same_setReg h b).trans (same_setReg hflag _)

theorem same_withDisplay (h : part ≠ .display) (display : Framebuffer) :
    part.Same m { m with display } := by
  cases part with
  | display => exact absurd rfl h
  | _ => rfl

theorem same_withStack (h : part ≠ .stack) (stack : CallStack) (pc : Int) :
    part.Same m { m with stack, pc } := by
  cases part with
  | stack => exact absurd rfl h
  | _ => rfl

theorem same_withIndex (h : part ≠ .index) (index : Int) : part.Same m { m with index } := by
  cases part with
  | index => exact absurd rfl h
  | _ => rfl

theorem same_withWait (h : part ≠ .wait) (wait : KeyWait) : part.Same m { m with wait } := by
  cases part with
  | wait => exact absurd rfl h
  | _ => rfl

theorem same_withDelay (h : part ≠ .delay) (delay : UInt8) :
    part.Same m { m with timers := { m.timers with delay } } := by
  cases part with
  | delay => exact absurd rfl h
  | _ => rfl

theorem same_withSound (h : part ≠ .sound) (sound : UInt8) :
    part.Same m { m with timers := { m.timers with sound } } := by
  cases part with
  | sound => exact absurd rfl h
  | _ => rfl

theorem same_withRandom (h : part ≠ .random) (random : List UInt8) :
    part.Same m { m with random } := by
  cases part with
  | random => exact absurd rfl h
  | _ => rfl

/-- Bytes laid over memory leave the other addresses alone. -/
theorem same_patch {start : Nat} {bytes : List UInt8}
    (h : ∀ address, start ≤ address → address < start + bytes.length → part ≠ .byte address) :
    part.Same m { m with memory := ⟨Memory.patch m.memory.cells start bytes⟩ } := by
  cases part with
  | byte address =>
    rw [Same, Memory.getElem?_patch, if_neg]
    rintro ⟨hlow, hhigh, -⟩
    exact h address hlow hhigh rfl
  | size => exact Memory.size_patch m.memory.cells start bytes
  | _ => rfl

/-- Bytes put into the first registers leave the others alone. -/
theorem same_fillRegs {bytes : List UInt8} (h : ∀ y : Digit, y.val < bytes.length →
    part ≠ .register y) : part.Same m { m with registers := fillRegs m.registers 0 bytes } := by
  cases part with
  | register y =>
    have hfill := some_get_fillRegs m.registers 0 bytes y
    rw [if_neg fun hy => h y (by omega) rfl] at hfill
    exact Option.some.inj hfill
  | _ => rfl

end Part

/-! ## One instruction -/

/-- **An instruction leaves every part outside the footprint of its word as it is.** -/
theorem same_of_run {m next : Machine} {w : Word} {i : Instruction} (hrow : Row w i)
    (hrun : (execute i).run m = .ok () next) {part : Part} (hfree : ¬Writes m.index w part) :
    part.Same m next := by
  have hne {other : Part} (hwrites : Writes m.index w other) : part ≠ other := by
    rintro rfl
    exact hfree hwrites
  cases hrow with
  | clear =>
    obtain ⟨⟩ := hrun
    exact Part.same_withDisplay (hne .clear) _
  | ret =>
    obtain ⟨pc, rest, -, rfl⟩ := run_returnFromCall_eq_ok_iff.1 hrun
    exact Part.same_withStack (hne .ret) _ _
  | call x y n =>
    obtain ⟨-, rfl⟩ := run_callTo_eq_ok_iff.1 hrun
    exact Part.same_withStack (hne (.call x y n)) _ _
  | jump | jumpOffset =>
    obtain ⟨⟩ := hrun
    exact Part.same_withPc _
  | skipIfByte | skipUnlessByte | skipIfEqual | skipUnlessEqual | skipIfKey | skipUnlessKey =>
    obtain ⟨⟩ := hrun
    exact Part.same_skipIf _
  | setByte x y n =>
    obtain ⟨⟩ := hrun
    exact Part.same_setReg (hne (.setByte x y n)) _
  | addByte x y n =>
    obtain ⟨⟩ := hrun
    exact Part.same_setReg (hne (.addByte x y n)) _
  | copy x y | bitOr x y | bitAnd x y | bitXor x y =>
    obtain ⟨⟩ := hrun
    exact Part.same_setReg (hne (.result x y _)) _
  | add x y | sub x y | shiftRight x y | subFrom x y | shiftLeft x y =>
    obtain ⟨⟩ := hrun
    exact Part.same_setRegFlag (hne (.result x y _)) (hne (.flag x y _ (by decide))) _ _
  | setIndex x y n =>
    obtain ⟨⟩ := hrun
    exact Part.same_withIndex (hne (.setIndex x y n)) _
  | random x y n =>
    obtain ⟨⟩ := hrun
    exact (Part.same_setReg (hne (.random x y n)) _).trans
      (Part.same_withRandom (hne (.roll x y n)) _)
  | draw x y n =>
    obtain ⟨-, -, rfl⟩ := run_drawAt_eq_ok_iff.1 hrun
    exact (Part.same_withDisplay (hne (.draw x y n)) _).trans
      (Part.same_setReg (hne (.collision x y n)) _)
  | getDelay x =>
    obtain ⟨⟩ := hrun
    exact Part.same_setReg (hne (.getDelay x)) _
  | awaitKey x =>
    obtain ⟨⟩ := hrun
    exact Part.same_withWait (hne (.awaitKey x)) _
  | setDelay x =>
    obtain ⟨⟩ := hrun
    exact Part.same_withDelay (hne (.setDelay x)) _
  | setSound x =>
    obtain ⟨⟩ := hrun
    exact Part.same_withSound (hne (.setSound x)) _
  | addIndex x =>
    obtain ⟨⟩ := hrun
    exact Part.same_withIndex (hne (.addIndex x)) _
  | glyph x =>
    obtain ⟨⟩ := hrun
    exact Part.same_withIndex (hne (.glyph x)) _
  | decimal x =>
    rw [run_decimal, run_store_eq_ok_iff] at hrun
    obtain ⟨⟨hindex, -⟩, rfl⟩ := hrun
    refine Part.same_patch fun address hlow hhigh => hne (.decimal x (by omega) ?_)
    rw [length_decimalDigits] at hhigh
    omega
  | save x =>
    rw [run_save, run_store_eq_ok_iff] at hrun
    obtain ⟨⟨hindex, -⟩, rfl⟩ := hrun
    refine Part.same_patch fun address hlow hhigh => hne (.save x (by omega) ?_)
    rw [length_take_registers] at hhigh
    omega
  | restore x =>
    obtain ⟨-, rfl⟩ := run_restoreFrom_eq_ok_iff.1 hrun
    refine Part.same_fillRegs fun y hy => hne (.restore x y ?_)
    have hlength := m.memory.length_bytesAt_le m.index.toNat (x.val + 1)
    exact Fin.le_def.2 (by omega)

/-! ## One step -/

/-- The instruction of a word that is executed is the one of its row. -/
theorem Executes.eq_of_row {m : Machine} {w : Word} {i j : Instruction} (h : m.Executes i)
    (hword : m.nextWord = w) (hrow : Row w j) : i = j :=
  h.1.row.unique (hword ▸ hrow)

/-- **A step that runs a word writes the word's footprint and nothing else.**  A return takes one
entry off the top of the stack, a call puts one there, and a random number takes the first of the
random bytes to come and leaves the others. -/
theorem step_frame {m : Machine} (hidle : m.wait.active = false)
    (hran : m.step.result = .ok true) :
    m.fetch = .ok m.nextWord.toNat ∧
    (∀ part, ¬Writes m.index m.nextWord part → part.Same m m.step.machine) ∧
    (m.nextWord = ⟨0x0, 0x0, 0xE, 0xE⟩ →
      ∃ entry, m.stack.toList = m.step.machine.stack.toList ++ [entry]) ∧
    (∀ x y n, m.nextWord = ⟨0x2, x, y, n⟩ →
      ∃ entry, m.step.machine.stack.toList = m.stack.toList ++ [entry]) ∧
    ∀ x y n, m.nextWord = ⟨0xC, x, y, n⟩ →
      m.step.machine.random = m.random.tail ∧
        m.step.machine.reg x = m.random.headD 0 &&& m.nextWord.byte := by
  obtain ⟨i, h⟩ := exists_executes hidle hran
  have hrun := h.run
  refine ⟨fetch_of_inRange h.1.inRange, fun part hfree => ?_, fun hword => ?_,
    fun x y n hword => ?_, fun x y n hword => ?_⟩
  · exact Part.same_begun.trans (same_of_run h.1.row hrun hfree)
  · obtain rfl := h.eq_of_row hword .ret
    obtain ⟨pc, rest, hentries, hnext⟩ := run_returnFromCall_eq_ok_iff.1 hrun
    refine ⟨pc, ?_⟩
    rw [hnext, CallStack.toList, show m.stack.entries = pc :: rest from hentries, List.reverse_cons]
    rfl
  · obtain rfl := h.eq_of_row hword (.call x y n)
    obtain ⟨-, hnext⟩ := run_callTo_eq_ok_iff.1 hrun
    refine ⟨m.begun.pc, ?_⟩
    rw [hnext, CallStack.toList, List.reverse_cons]
    rfl
  · obtain rfl := h.eq_of_row hword (.random x y n)
    have hnext : m.step.machine = m.begun.rollInto x m.nextWord.byte :=
      hword ▸ (EStateM.Result.ok.inj hrun).2.symm
    rw [hnext]
    refine ⟨rfl, ?_⟩
    change (m.begun.setReg x _).reg x = _
    rw [reg_setReg, if_pos rfl]
    rfl

/-- Registers 0 and 1 are written to the last two bytes of a memory of five; the byte before them
and the stack stay as they are. -/
theorem step_frame_save :
    let m : Machine :=
      { ofParts ⟨#[0xF1, 0x55, 0x07, 0x08, 0x09]⟩ (.empty 16) .display [] false with
        pc := 0, index := 3 }
    (m.wait.active = false ∧ m.step.result = .ok true) ∧
      ¬Writes m.index m.nextWord (.byte 2) ∧ m.step.machine.memory.cells[2]? = some 0x07 ∧
      ¬Writes m.index m.nextWord .stack ∧ m.step.machine.stack = .empty 16 := by
  intro m
  have hword : m.nextWord = ⟨0xF, 0x1, 0x5, 0x5⟩ := by decide
  have hexecutes : m.Executes (.save 0x1) := by decide +kernel
  obtain ⟨-, hran⟩ := hexecutes
  have hbyte : ¬Writes m.index m.nextWord (.byte 2) := by
    rw [hword]
    rintro (_ | _)
    nomatch ‹m.index ≤ (2 : Nat)›
  have hstack : ¬Writes m.index m.nextWord .stack := by
    rw [hword]
    nofun
  obtain ⟨-, hsame, -⟩ := step_frame (m := m) rfl hran
  exact ⟨⟨rfl, hran⟩, hbyte, hsame _ hbyte, hstack, hsame _ hstack⟩

end ChipEight.Machine
