import ChipEight.Proofs.Machine.Calls
import ChipEight.Proofs.Machine.Footprint

/-!
# Proofs/Machine/ProgramCounter — where a program goes on

When an instruction begins, the program counter is already past its word.  Four kinds of word send it
elsewhere, six may send it past one more word, and all the others leave it there.  `GoesOn` says this
of a word and the machine that is about to run it.

* `GoesOn.unique` — a word goes on at one address;
* `WellFormed.goesOn_step` — a step that runs a word goes on there, one case a row of the table;
* `pc_run_of_waiting` — a machine that waits for a key stays where it is;
* `Reachable.pc_step` — **the law of the program counter**, on every reachable machine.
-/

namespace ChipEight.Machine

open Instruction

/-! ## The table -/

/-- **The words that say where to go on**, and the address. -/
inductive SendsTo (m : Machine) : Word → Int → Prop where
  | jump (x y n : Digit) : SendsTo m ⟨0x1, x, y, n⟩ (Word.address ⟨0x1, x, y, n⟩).val
  | call (x y n : Digit) : SendsTo m ⟨0x2, x, y, n⟩ (Word.address ⟨0x2, x, y, n⟩).val
  /-- The sum may lie above every address, and is left so. -/
  | jumpOffset (x y n : Digit) :
    SendsTo m ⟨0xB, x, y, n⟩ ((m.reg 0x0).toNat + (Word.address ⟨0xB, x, y, n⟩).val)
  | ret {earlier : List Int} {entry : Int} (h : m.stack.toList = earlier ++ [entry]) :
    SendsTo m ⟨0x0, 0x0, 0xE, 0xE⟩ entry

/-- **The words that skip the next one**, each under its condition. -/
inductive Skips (m : Machine) : Word → Prop where
  | ifByte (x y n : Digit) (h : m.reg x = Word.byte ⟨0x3, x, y, n⟩) : Skips m ⟨0x3, x, y, n⟩
  | unlessByte (x y n : Digit) (h : m.reg x ≠ Word.byte ⟨0x4, x, y, n⟩) : Skips m ⟨0x4, x, y, n⟩
  | ifEqual (x y : Digit) (h : m.reg x = m.reg y) : Skips m ⟨0x5, x, y, 0x0⟩
  | unlessEqual (x y : Digit) (h : m.reg x ≠ m.reg y) : Skips m ⟨0x9, x, y, 0x0⟩
  /-- The low digit of the register names the key. -/
  | ifKey (x : Digit) (h : Digit.ofByte (m.reg x) ∈ m.keypad) : Skips m ⟨0xE, x, 0x9, 0xE⟩
  | unlessKey (x : Digit) (h : Digit.ofByte (m.reg x) ∉ m.keypad) : Skips m ⟨0xE, x, 0xA, 0x1⟩

/-- **The words that jump, call or return.** -/
inductive Redirects : Word → Prop where
  | jump (x y n : Digit) : Redirects ⟨0x1, x, y, n⟩
  | call (x y n : Digit) : Redirects ⟨0x2, x, y, n⟩
  | jumpOffset (x y n : Digit) : Redirects ⟨0xB, x, y, n⟩
  | ret : Redirects ⟨0x0, 0x0, 0xE, 0xE⟩

/-- **Where a machine goes on** that runs a word. -/
inductive GoesOn (m : Machine) (w : Word) : Int → Prop where
  | sent {target : Int} (h : m.SendsTo w target) : GoesOn m w target
  | skip (h : m.Skips w) : GoesOn m w (m.pc + 4)
  | next (hstays : ¬Redirects w) (hskip : ¬m.Skips w) : GoesOn m w (m.pc + 2)

variable {m : Machine} {w : Word}

theorem SendsTo.redirects {target : Int} (h : m.SendsTo w target) : Redirects w := by
  cases h <;> constructor

theorem Skips.not_redirects (h : m.Skips w) : ¬Redirects w := by
  cases h <;> rintro ⟨⟩

/-- A word says one address. -/
theorem SendsTo.unique {target other : Int} (h : m.SendsTo w target) (h' : m.SendsTo w other) :
    target = other := by
  cases h with
  | jump | call | jumpOffset =>
    cases h'
    rfl
  | ret htop =>
    cases h' with
    | ret htop' => exact (List.append_singleton_inj.1 (htop.symm.trans htop')).2

/-- **A machine goes on at one address.** -/
theorem GoesOn.unique {pc pc' : Int} (h : m.GoesOn w pc) (h' : m.GoesOn w pc') : pc = pc' := by
  cases h with
  | sent h =>
    cases h' with
    | sent h' => exact h.unique h'
    | skip hskip => exact absurd h.redirects hskip.not_redirects
    | next hstays => exact absurd h.redirects hstays
  | skip hskip =>
    cases h' with
    | sent h' => exact absurd h'.redirects hskip.not_redirects
    | skip => rfl
    | next _ hnot => exact absurd hskip hnot
  | next hstays hnot =>
    cases h' with
    | sent h' => exact absurd h'.redirects hstays
    | skip hskip => exact absurd hskip hnot
    | next => rfl

/-! ## A step that runs a word -/

/-- A skip goes on as the table says if its condition is that of the table. -/
theorem WellFormed.goesOn_skipIf (h : m.WellFormed) {condition : Bool} (hstays : ¬Redirects w)
    (hcondition : condition = true ↔ m.Skips w) : m.GoesOn w (m.begun.skipIf condition).pc := by
  have hbegun := h.pc_begun
  obtain ⟨hlow, hhigh⟩ := h.pc_bounds
  cases condition with
  | false =>
    rw [show (m.begun.skipIf false).pc = m.pc + 2 from hbegun]
    exact .next hstays (mt hcondition.2 Bool.false_ne_true)
  | true =>
    have hpc : (m.begun.skipIf true).pc = m.pc + 4 := by
      change (m.begun.pc + 2) % 0x10000 = m.pc + 4
      omega
    rw [hpc]
    exact .skip (hcondition.1 rfl)

/-- **A step that runs a word goes on where the table says**, one case a row. -/
theorem WellFormed.goesOn_step (h : m.WellFormed) (hidle : m.wait.active = false)
    (hran : m.step.result = .ok true) : m.GoesOn m.nextWord m.step.machine.pc := by
  obtain ⟨i, hexecutes⟩ := exists_executes hidle hran
  have hrun := hexecutes.run
  have hrow := hexecutes.1.row
  generalize m.nextWord = w at hrow ⊢
  generalize m.step.machine = next at hrun ⊢
  -- the words that are not in the table leave the counter where the fetch has put it
  have hstay (hpc : next.pc = m.begun.pc) (hstays : ¬Redirects w) (hskip : ¬m.Skips w) :
      m.GoesOn w next.pc := by
    rw [hpc, h.pc_begun]
    exact .next hstays hskip
  cases hrow with
  | jump x y n =>
    obtain ⟨⟩ := hrun
    exact .sent (.jump x y n)
  | call x y n =>
    obtain ⟨-, rfl⟩ := run_callTo_eq_ok_iff.1 hrun
    exact .sent (.call x y n)
  | jumpOffset x y n =>
    obtain ⟨⟩ := hrun
    exact .sent (.jumpOffset x y n)
  | ret =>
    obtain ⟨pc, rest, hentries, rfl⟩ := run_returnFromCall_eq_ok_iff.1 hrun
    have htop : m.stack.toList = rest.reverse ++ [pc] := by
      rw [CallStack.toList, show m.stack.entries = pc :: rest from hentries, List.reverse_cons]
    exact .sent (.ret htop)
  | skipIfByte x y n =>
    obtain ⟨⟩ := hrun
    refine h.goesOn_skipIf (by rintro ⟨⟩) (beq_iff_eq.trans ⟨fun h => .ifByte x y n h, ?_⟩)
    rintro ⟨⟩
    assumption
  | skipUnlessByte x y n =>
    obtain ⟨⟩ := hrun
    refine h.goesOn_skipIf (by rintro ⟨⟩) (bne_iff_ne.trans ⟨fun h => .unlessByte x y n h, ?_⟩)
    rintro ⟨⟩
    assumption
  | skipIfEqual x y =>
    obtain ⟨⟩ := hrun
    refine h.goesOn_skipIf (by rintro ⟨⟩) (beq_iff_eq.trans ⟨fun h => .ifEqual x y h, ?_⟩)
    rintro ⟨⟩
    assumption
  | skipUnlessEqual x y =>
    obtain ⟨⟩ := hrun
    refine h.goesOn_skipIf (by rintro ⟨⟩) (bne_iff_ne.trans ⟨fun h => .unlessEqual x y h, ?_⟩)
    rintro ⟨⟩
    assumption
  | skipIfKey x =>
    obtain ⟨⟩ := hrun
    refine h.goesOn_skipIf (by rintro ⟨⟩) ⟨fun h => .ifKey x h, ?_⟩
    rintro ⟨⟩
    assumption
  | skipUnlessKey x =>
    obtain ⟨⟩ := hrun
    refine h.goesOn_skipIf (by rintro ⟨⟩) (Bool.not_eq.trans ⟨fun h => .unlessKey x h, ?_⟩)
    rintro ⟨⟩
    assumption
  | draw x y n =>
    obtain ⟨-, -, rfl⟩ := run_drawAt_eq_ok_iff.1 hrun
    exact hstay rfl (by rintro ⟨⟩) (by rintro ⟨⟩)
  | decimal x =>
    rw [run_decimal, run_store_eq_ok_iff] at hrun
    obtain ⟨-, rfl⟩ := hrun
    exact hstay rfl (by rintro ⟨⟩) (by rintro ⟨⟩)
  | save x =>
    rw [run_save, run_store_eq_ok_iff] at hrun
    obtain ⟨-, rfl⟩ := hrun
    exact hstay rfl (by rintro ⟨⟩) (by rintro ⟨⟩)
  | restore x =>
    obtain ⟨-, rfl⟩ := run_restoreFrom_eq_ok_iff.1 hrun
    exact hstay rfl (by rintro ⟨⟩) (by rintro ⟨⟩)
  | _ =>
    obtain ⟨⟩ := hrun
    exact hstay rfl (by rintro ⟨⟩) (by rintro ⟨⟩)

/-! ## A machine that waits -/

/-- Nothing that happens to a machine that waits moves the counter. -/
theorem pc_after_of_wait (hwait : m.wait.active = true) (move : Move) :
    (m.after move).pc = m.pc := by
  cases move with
  | step =>
    rw [after, machine_step_of_wait hwait, checkKeys]
    split
    · rfl
    · rfl
  | tick | setKey | releaseAll => rfl

/-- **A machine stays where it is for as long as it waits.** -/
theorem pc_run_of_waiting {moves : List Move}
    (hwaiting : ∀ before, before <+: moves → before ≠ moves → (m.run before).wait.active = true) :
    (m.run moves).pc = m.pc := by
  induction moves generalizing m with
  | nil => rfl
  | cons move moves ih =>
    have hwait : m.wait.active = true := hwaiting [] List.nil_prefix nofun
    have hrest : ((m.after move).run moves).pc = (m.after move).pc := by
      refine ih fun before hbefore hne => ?_
      refine hwaiting (move :: before) (List.cons_prefix_cons.2 ⟨rfl, hbefore⟩) fun heq => ?_
      exact hne (List.cons.inj heq).2
    rw [run_cons, hrest, pc_after_of_wait hwait]

/-! ## The law of the program counter -/

/-- **The law of the program counter.**  A step that runs a word goes on where the table says and
nowhere else, and a call leaves the address behind its word on the stack.  A machine that waits for a
key stays where it is, whatever happens, until the wait is over. -/
theorem Reachable.pc_step (h : Reachable m) :
    (m.wait.active = false → m.step.result = .ok true →
      (∀ pc, m.step.machine.pc = pc ↔ m.GoesOn m.nextWord pc) ∧
      ∀ x y n, m.nextWord = ⟨0x2, x, y, n⟩ →
        m.step.machine.stack.toList = m.stack.toList ++ [m.pc + 2]) ∧
    ∀ moves,
      (∀ before, before <+: moves → before ≠ moves → (m.run before).wait.active = true) →
        (m.run moves).pc = m.pc := by
  have hm := h.wellFormed
  refine ⟨fun hidle hran => ⟨fun pc => ?_, fun x y n hword => ?_⟩, fun moves => pc_run_of_waiting⟩
  · have hgoesOn := hm.goesOn_step hidle hran
    constructor
    · rintro rfl
      exact hgoesOn
    · exact hgoesOn.unique
  · obtain ⟨i, hexecutes⟩ := exists_executes hidle hran
    obtain rfl := hexecutes.eq_of_row hword (.call x y n)
    rw [CallStack.toList, hm.entries_call hexecutes, List.reverse_cons]
    rfl

/-- Register 0 holds 5 and the word `3005` skips the one behind it; a machine that has run `F00A`
stays behind that word while key 2 goes down and a step takes it. -/
theorem Reachable.pc_step_skip :
    let m := (booted [0x60, 0x05, 0x30, 0x05] [] false).run [.step]
    let waiting := (booted [0xF0, 0x0A] [] false).run [.step]
    let moves : List Move := [.step, .setKey 0x2 true, .step]
    (m.wait.active = false ∧ m.step.result = .ok true ∧ m.step.machine.pc = 0x206) ∧
      (∀ before ∈ moves.inits, before ≠ moves → (waiting.run before).wait.active = true) ∧
      (waiting.run moves).wait.active = false ∧ (waiting.run moves).pc = 0x202 := by
  intro m waiting moves
  have hm : Reachable m := (Reachable.of_booted (by decide) [] false).run _
  have hwaiting : Reachable waiting := (Reachable.of_booted (by decide) [] false).run _
  have hskip : m.Executes (.skipIfByte 0x0 0x05) ∧ m.nextWord = ⟨0x3, 0x0, 0x0, 0x5⟩ ∧
      m.reg 0x0 = 0x05 ∧ m.pc = 0x202 := by
    decide +kernel
  obtain ⟨hran, hword, hreg, hpc⟩ := hskip
  have hwaits : (∀ before ∈ moves.inits, before ≠ moves →
      (waiting.run before).wait.active = true) ∧
      (waiting.run moves).wait.active = false ∧ waiting.pc = 0x202 := by
    decide +kernel
  obtain ⟨hbefore, hend, hpc'⟩ := hwaits
  refine ⟨⟨hran.1.idle, hran.2, ?_⟩, hbefore, hend, ?_⟩
  · obtain ⟨hlaw, -⟩ := Reachable.pc_step hm
    obtain ⟨hgoesOn, -⟩ := hlaw hran.1.idle hran.2
    have hgoes : m.GoesOn m.nextWord (m.pc + 4) := .skip (hword ▸ .ifByte 0x0 0x0 0x5 hreg)
    rw [(hgoesOn _).2 hgoes, hpc]
    rfl
  · obtain ⟨-, hlaw⟩ := Reachable.pc_step hwaiting
    rw [hlaw moves fun before h => hbefore before ((List.mem_inits before moves).2 h), hpc']

end ChipEight.Machine
