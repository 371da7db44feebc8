import ChipEight.Proofs.Instruction.Table
import ChipEight.Proofs.Machine.Effect

/-!
# Proofs/Machine/Arithmetic — results and flags, whichever registers they share

A sum, a difference or a shift has a result and a flag.  The operands are read before either is
written, and the flag is written last: it stands in VF even where the result was to go there.  Result
and flag together say exactly what was computed; nothing is cut off.

* `toNat_add_carry`, `toNat_sub_borrow`, … — a byte and its flag, as one equation of numbers;
* `LeavesFlagged`, `LeavesOnly` — what a word leaves in the registers, with a flag and without;
* `run_arithmetic` — **the law of each word**, for any two registers.
-/

namespace ChipEight.Machine

open Instruction

/-! ## Bytes and flags -/

/-- A sum and its carry. -/
theorem toNat_add_carry (a b : UInt8) :
    (a + b).toNat + 256 * (decide (255 < a.toNat + b.toNat)).toNat = a.toNat + b.toNat := by
  have ha := a.toNat_lt
  have hb := b.toNat_lt
  rw [UInt8.toNat_add]
  by_cases hcarry : 255 < a.toNat + b.toNat
  · rw [decide_eq_true hcarry, Bool.toNat_true]
    omega
  · rw [decide_eq_false hcarry, Bool.toNat_false]
    omega

/-- A difference, and a flag that says that nothing was borrowed. -/
theorem toNat_sub_borrow (a b : UInt8) :
    (a.toNat : Int) - b.toNat = (a - b).toNat - 256 * (1 - (decide (b ≤ a)).toNat) := by
  have ha := a.toNat_lt
  have hb := b.toNat_lt
  rw [UInt8.toNat_sub]
  by_cases hfits : b ≤ a
  · have hle : b.toNat ≤ a.toNat := UInt8.le_iff_toNat_le.1 hfits
    rw [decide_eq_true hfits, Bool.toNat_true]
    omega
  · have hlt : a.toNat < b.toNat := Nat.lt_of_not_le (mt UInt8.le_iff_toNat_le.2 hfits)
    rw [decide_eq_false hfits, Bool.toNat_false]
    omega

/-- Half a byte, and the bit that was shifted out. -/
theorem toNat_half (a : UInt8) : a.toNat = 2 * (a / 2).toNat + (a % 2 == 1).toNat := by
  have hhalf : (a / 2).toNat = a.toNat / 2 := UInt8.toNat_div a 2
  have hodd : a % 2 = 1 ↔ a.toNat % 2 = 1 := by
    rw [← UInt8.toNat_inj, UInt8.toNat_mod]
    rfl
  by_cases hbit : a % 2 = 1
  · have := hodd.1 hbit
    rw [beq_iff_eq.2 hbit, Bool.toNat_true]
    omega
  · have := mt hodd.2 hbit
    rw [beq_eq_false_iff_ne.2 hbit, Bool.toNat_false]
    omega

/-- Twice a byte, and the bit that was shifted out. -/
theorem toNat_double (a : UInt8) :
    (a + a).toNat + 256 * (decide (128 ≤ a)).toNat = 2 * a.toNat := by
  have hcarry : 128 ≤ a ↔ 255 < a.toNat + a.toNat := by
    rw [UInt8.le_iff_toNat_le]
    change 128 ≤ a.toNat ↔ _
    omega
  rw [decide_eq_decide.2 hcarry, toNat_add_carry, Nat.two_mul]

/-! ## What a word leaves in the registers -/

/-- A register after a result and a flag: the flag is written last. -/
@[simp] theorem reg_setRegFlag (m : Machine) (x z : Digit) (b : UInt8) (flag : Bool) :
    (m.setRegFlag x b flag).reg z =
      if z = flagRegister then (if flag then 1 else 0) else if z = x then b else m.reg z := by
  simp only [setRegFlag, reg_setReg, eq_comm]

/-- **The word leaves a result and a flag**: the flag stands in VF, the result in its register unless
that is VF, and both obey a law.  Nothing else changes. -/
def LeavesFlagged (m : Machine) (w : Word) (x : Digit) (law : Nat → Nat → Prop) : Prop :=
  ∃ next : Machine, ∃ result flag : Nat,
    runOpcode.run { m with opcode := w.toNat } = .ok () next ∧
    (result ≤ 255 ∧ flag ≤ 1 ∧ law result flag) ∧
    (next.reg flagRegister).toNat = flag ∧ (x ≠ flagRegister → (next.reg x).toNat = result) ∧
    (∀ z, z ≠ x → z ≠ flagRegister → next.reg z = m.reg z) ∧
    next = { m with opcode := w.toNat, registers := next.registers }

/-- **The word leaves a result and no flag**: nothing but the register of the result changes. -/
def LeavesOnly (m : Machine) (w : Word) (x : Digit) (result : Nat) : Prop :=
  ∃ next : Machine,
    runOpcode.run { m with opcode := w.toNat } = .ok () next ∧
    (next.reg x).toNat = result ∧ (∀ z, z ≠ x → next.reg z = m.reg z) ∧
    next = { m with opcode := w.toNat, registers := next.registers }

variable {m : Machine} {w : Word} {i : Instruction} {x : Digit} {b : UInt8}

/-- A row whose instruction sets a register and the flag. -/
theorem leavesFlagged_of_row {flag : Bool} {law : Nat → Nat → Prop} (hrow : Row w i)
    (hrun : (execute i).run { m with opcode := w.toNat } =
      .ok () ({ m with opcode := w.toNat }.setRegFlag x b flag))
    (hlaw : law b.toNat flag.toNat) : m.LeavesFlagged w x law := by
  have hflag : (if flag then 1 else 0 : UInt8).toNat = flag.toNat := by
    cases flag <;> rfl
  refine ⟨_, b.toNat, flag.toNat, (run_runOpcode_of_decode? (decode?_of_row hrow)).trans hrun,
    ⟨?_, flag.toNat_le, hlaw⟩, ?_, fun hx => ?_, fun z hx hz => ?_, rfl⟩
  · exact Nat.le_of_lt_succ b.toNat_lt
  · rw [reg_setRegFlag, if_pos rfl, hflag]
  · rw [reg_setRegFlag, if_neg hx, if_pos rfl]
  · rw [reg_setRegFlag, if_neg hz, if_neg hx]
    rfl

/-- A row whose instruction sets a register. -/
theorem leavesOnly_of_row {result : Nat} (hrow : Row w i)
    (hrun : (execute i).run { m with opcode := w.toNat } =
      .ok () ({ m with opcode := w.toNat }.setReg x b))
    (hresult : b.toNat = result) : m.LeavesOnly w x result := by
  refine ⟨_, (run_runOpcode_of_decode? (decode?_of_row hrow)).trans hrun, ?_, fun z hz => ?_, rfl⟩
  · rw [reg_setReg, if_pos rfl, hresult]
  · rw [reg_setReg, if_neg (Ne.symm hz)]
    rfl

/-! ## The law of each word -/

/-- **The arithmetic of two registers**, which may be the same one, and either of which may be VF.
Sums, differences and shifts leave a result and a flag that together are exact. -/
theorem run_arithmetic (m : Machine) (x y : Digit) :
    let a := (m.reg x).toNat
    let b := (m.reg y).toNat
    m.LeavesFlagged ⟨0x8, x, y, 0x4⟩ x (fun r f => r + 256 * f = a + b) ∧
    m.LeavesFlagged ⟨0x8, x, y, 0x5⟩ x (fun r f => (a : Int) - b = r - 256 * (1 - f)) ∧
    m.LeavesFlagged ⟨0x8, x, y, 0x7⟩ x (fun r f => (b : Int) - a = r - 256 * (1 - f)) ∧
    m.LeavesFlagged ⟨0x8, x, y, 0x6⟩ x (fun r f => a = 2 * r + f) ∧
    m.LeavesFlagged ⟨0x8, x, y, 0xE⟩ x (fun r f => 2 * a = r + 256 * f) ∧
    (∀ n, m.LeavesOnly ⟨0x7, x, y, n⟩ x ((a + (0x10 * y.val + n.val)) % 256)) ∧
    m.LeavesOnly ⟨0x8, x, y, 0x0⟩ x b ∧
    m.LeavesOnly ⟨0x8, x, y, 0x1⟩ x (a ||| b) ∧
    m.LeavesOnly ⟨0x8, x, y, 0x2⟩ x (a &&& b) ∧
    m.LeavesOnly ⟨0x8, x, y, 0x3⟩ x (a ^^^ b) := by
  intro a b
  refine ⟨leavesFlagged_of_row (.add x y) rfl (toNat_add_carry _ _),
    leavesFlagged_of_row (.sub x y) rfl (toNat_sub_borrow _ _),
    leavesFlagged_of_row (.subFrom x y) rfl (toNat_sub_borrow _ _),
    leavesFlagged_of_row (.shiftRight x y) rfl (toNat_half _),
    leavesFlagged_of_row (.shiftLeft x y) rfl (toNat_double _).symm,
    fun n => leavesOnly_of_row (.addByte x y n) rfl ?_,
    leavesOnly_of_row (.copy x y) rfl rfl,
    leavesOnly_of_row (.bitOr x y) rfl (UInt8.toNat_or _ _),
    leavesOnly_of_row (.bitAnd x y) rfl (UInt8.toNat_and _ _),
    leavesOnly_of_row (.bitXor x y) rfl (UInt8.toNat_xor _ _)⟩
  have hlt : 0x10 * y.val + n.val < 256 := by omega
  have hbyte : (Word.byte ⟨0x7, x, y, n⟩).toNat = 0x10 * y.val + n.val :=
    UInt8.toNat_ofNat_of_lt hlt
  rw [UInt8.toNat_add, hbyte]
  rfl

end ChipEight.Machine
