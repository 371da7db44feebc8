import ChipEight.Proofs.Machine.Bounds
import ChipEight.Proofs.Memory.Blocks

/-!
# Proofs/Machine/SaveRestore — registers written to memory and read back

Two words carry registers 0 to `x` to the bytes at the index and back; a third writes the decimal
digits of a register there.  None of them moves the index, so that a word that reads finds what a
word before it has written, whatever has become of the registers in between.

* `get_fillRegs`, `take_toList_fillRegs` — which registers bytes fill, and with what;
* `decimalDigits_eq` — the three digits of a byte;
* `runs_save`, `runs_restore`, `runs_decimal` — what each word leaves;
* `Reachable.save_restore_round_trip` — **what is saved is restored**, up to the top of memory.
-/

namespace ChipEight.Machine

open Instruction

variable {m : Machine} {x : Digit}

/-! ## Registers and bytes -/

/-- The first registers, one after the other. -/
theorem getElem?_take_registers (m : Machine) {x y : Digit} (h : y ≤ x) :
    (m.registers.toList.take (x.val + 1))[y.val]? = some (m.reg y) := by
  have hy : y.val < m.registers.toList.length := by
    rw [Vector.length_toList]
    exact y.isLt
  rw [List.getElem?_take, if_pos (Nat.lt_succ_of_le h), List.getElem?_eq_getElem hy]
  rfl

/-- **Bytes fill the first registers**, and leave the others alone. -/
theorem get_fillRegs (registers : Vector UInt8 16) (bytes : List UInt8) (y : Digit) :
    (fillRegs registers 0 bytes).get y = bytes.getD y.val (registers.get y) := by
  have hfill := some_get_fillRegs registers 0 bytes y
  rw [Nat.zero_add, Nat.sub_zero] at hfill
  by_cases hy : y.val < bytes.length
  · rw [if_pos ⟨Nat.zero_le _, hy⟩, List.getElem?_eq_getElem hy] at hfill
    rw [List.getD_eq_getElem?_getD, List.getElem?_eq_getElem hy]
    exact Option.some.inj hfill
  · rw [if_neg fun h => hy h.2] at hfill
    rw [List.getD_eq_getElem?_getD, List.getElem?_eq_none (Nat.le_of_not_lt hy)]
    exact Option.some.inj hfill

/-- The first registers, once bytes have filled them, are those bytes. -/
theorem take_toList_fillRegs (registers : Vector UInt8 16) {bytes : List UInt8}
    (h : bytes.length ≤ 16) :
    (fillRegs registers 0 bytes).toList.take bytes.length = bytes := by
  refine List.ext_getElem? fun i => ?_
  rw [List.getElem?_take]
  split
  · next hi =>
    have hget := get_fillRegs registers bytes ⟨i, Nat.lt_of_lt_of_le hi h⟩
    rw [List.getD_eq_getElem?_getD, List.getElem?_eq_getElem hi] at hget
    have hlength : i < (fillRegs registers 0 bytes).toList.length := by
      rw [Vector.length_toList]
      exact Nat.lt_of_lt_of_le hi h
    rw [List.getElem?_eq_getElem hlength, List.getElem?_eq_getElem hi]
    exact congrArg some hget
  · next hi => rw [List.getElem?_eq_none (Nat.le_of_not_lt hi)]

/-- **The three digits of a byte**, hundreds first. -/
theorem decimalDigits_eq (b : UInt8) : ∃ h t u : UInt8, decimalDigits b = [h, t, u] ∧
    (h.toNat ≤ 9 ∧ t.toNat ≤ 9 ∧ u.toNat ≤ 9) ∧
    100 * h.toNat + 10 * t.toNat + u.toNat = b.toNat := by
  have hb := b.toNat_lt
  have hundreds : (b / 100).toNat = b.toNat / 100 := UInt8.toNat_div b 100
  have tens : (b / 10 % 10).toNat = b.toNat / 10 % 10 := by
    rw [UInt8.toNat_mod, UInt8.toNat_div]
    rfl
  have units : (b % 10).toNat = b.toNat % 10 := UInt8.toNat_mod b 10
  exact ⟨b / 100, b / 10 % 10, b % 10, rfl, by omega, by omega⟩

/-! ## What each word leaves -/

/-- **A save** lays the first registers over memory. -/
theorem runs_save (h : m.memory.InRange m.index (x.val + 1 : Nat)) :
    let w : Word := ⟨0xF, x, 0x5, 0x5⟩
    m.Runs w { m with
      opcode := w.toNat
      memory := ⟨Memory.patch m.memory.cells m.index.toNat
        (m.registers.toList.take (x.val + 1))⟩ } := by
  refine runs_of_row (.save x) ?_
  rw [run_save, run_store_eq_ok_iff, length_take_registers]
  exact ⟨h, rfl⟩

/-- **A restore** fills the first registers from memory. -/
theorem runs_restore (h : m.memory.InRange m.index (x.val + 1 : Nat)) :
    let w : Word := ⟨0xF, x, 0x6, 0x5⟩
    m.Runs w { m with
      opcode := w.toNat
      registers := fillRegs m.registers 0 (m.memory.bytesAt m.index.toNat (x.val + 1)) } :=
  runs_of_row (.restore x) (run_restoreFrom_eq_ok_iff.2 ⟨h, rfl⟩)

/-- **The digits of a register** are laid over memory. -/
theorem runs_decimal (h : m.memory.InRange m.index 3) :
    let w : Word := ⟨0xF, x, 0x3, 0x3⟩
    m.Runs w { m with
      opcode := w.toNat
      memory := ⟨Memory.patch m.memory.cells m.index.toNat (decimalDigits (m.reg x))⟩ } := by
  refine runs_of_row (.decimal x) ?_
  rw [run_decimal, run_store_eq_ok_iff]
  exact ⟨h, rfl⟩

/-! ## There and back

From here on the index points at `start`, and everything that the words touch lies in memory. -/

section Start

variable {start : Nat}

/-- Registers 0 to `x` fit at the index. -/
theorem inRange_index (hindex : m.index = start) (h : start + x.val < m.memory.size) :
    m.memory.InRange m.index (x.val + 1 : Nat) := by
  rw [hindex]
  exact ⟨by omega, by omega⟩

/-- **What is restored** are the bytes at the index; the other registers stay, and so do memory and
the index. -/
theorem exists_runs_restore (hindex : m.index = start) (h : start + x.val < m.memory.size) :
    ∃ restored, m.Runs ⟨0xF, x, 0x6, 0x5⟩ restored ∧
      restored.registers = fillRegs m.registers 0 (m.memory.bytesAt start (x.val + 1)) ∧
      (∀ y, restored.reg y = (m.memory.bytesAt start (x.val + 1)).getD y.val (m.reg y)) ∧
      restored.index = start ∧ restored.memory = m.memory := by
  have hrestore := runs_restore (inRange_index hindex h)
  have hstart : m.index.toNat = start := by omega
  rw [hstart] at hrestore
  exact ⟨_, hrestore, rfl, get_fillRegs _ _, hindex, rfl⟩

/-- Bytes written at the index are what is restored from there, by whichever machine. -/
theorem exists_runs_restore_patch {cells : Array UInt8} {bytes : List UInt8}
    (hindex : m.index = start) (hmemory : m.memory = ⟨Memory.patch cells start bytes⟩)
    (hbytes : bytes.length = x.val + 1) (h : start + x.val < cells.size) :
    ∃ restored, m.Runs ⟨0xF, x, 0x6, 0x5⟩ restored ∧
      (∀ y, restored.reg y = bytes.getD y.val (m.reg y)) ∧
      restored.index = start ∧ restored.memory = m.memory := by
  have hsize : m.memory.size = cells.size := by
    rw [hmemory]
    exact Memory.size_patch cells start bytes
  obtain ⟨restored, hruns, -, hreg, hsame⟩ := exists_runs_restore (x := x) hindex (by omega)
  rw [hmemory, ← hbytes, Memory.bytesAt_patch cells (by omega)] at hreg
  exact ⟨restored, hruns, hreg, hsame⟩

/-- **What is saved is restored**, whatever has become of the registers.  The bytes from the index on
are the registers, and all others stay. -/
theorem exists_runs_save (hindex : m.index = start) (h : start + x.val < m.memory.size) :
    ∃ saved, m.Runs ⟨0xF, x, 0x5, 0x5⟩ saved ∧ saved.index = start ∧
      (∀ y ≤ x, saved.memory.cells[start + y.val]? = some (m.reg y)) ∧
      (∀ a, a < start ∨ start + x.val < a →
        saved.memory.cells[a]? = m.memory.cells[a]?) ∧
      ∀ later : Machine, later.memory = saved.memory → later.index = saved.index →
        ∃ restored, later.Runs ⟨0xF, x, 0x6, 0x5⟩ restored ∧
          (∀ y ≤ x, restored.reg y = m.reg y) ∧ (∀ y, x < y → restored.reg y = later.reg y) ∧
          restored.index = start := by
  have hsave := runs_save (inRange_index hindex h)
  have hstart : m.index.toNat = start := by omega
  have hlength := length_take_registers m x
  have hsize : m.memory.cells.size = m.memory.size := rfl
  rw [hstart] at hsave
  refine ⟨_, hsave, hindex, fun y hy => ?_, fun a ha => ?_, fun later hmemory hlater => ?_⟩
  · have hyx : y.val ≤ x.val := hy
    rw [Memory.getElem?_patch, if_pos ⟨by omega, by omega, by omega⟩, Nat.add_sub_cancel_left]
    exact getElem?_take_registers m hy
  · rw [Memory.getElem?_patch, if_neg (by omega)]
  · obtain ⟨restored, hruns, hreg, hsame, -⟩ :=
      exists_runs_restore_patch (hlater.trans hindex) hmemory hlength h
    refine ⟨restored, hruns, fun y hy => ?_, fun y hy => ?_, hsame⟩
    · rw [hreg, List.getD_eq_getElem?_getD, getElem?_take_registers m hy]
      rfl
    · have hxy : x.val < y.val := hy
      rw [hreg, List.getD_eq_getElem?_getD, List.getElem?_eq_none (by omega)]
      rfl

/-- **What is restored is saved** without a change in memory. -/
theorem exists_runs_restore_save (hindex : m.index = start) (h : start + x.val < m.memory.size) :
    ∃ restored saved, m.Runs ⟨0xF, x, 0x6, 0x5⟩ restored ∧
      restored.Runs ⟨0xF, x, 0x5, 0x5⟩ saved ∧ saved.memory = m.memory := by
  obtain ⟨restored, hruns, hregisters, -, hindex', hmemory⟩ := exists_runs_restore hindex h
  have hsave := runs_save (inRange_index (m := restored) hindex' (hmemory ▸ h))
  have hstart : restored.index.toNat = start := by omega
  have hlength : (m.memory.bytesAt start (x.val + 1)).length = x.val + 1 :=
    Memory.length_bytesAt (by omega)
  -- the first registers hold what stands in memory, so that the save lays it where it was
  have htake : restored.registers.toList.take (x.val + 1) =
      m.memory.bytesAt start (x.val + 1) := by
    have hfew : (m.memory.bytesAt start (x.val + 1)).length ≤ 16 := by omega
    have hfilled := take_toList_fillRegs m.registers hfew
    rwa [hlength, ← hregisters] at hfilled
  rw [hstart, htake, hmemory, Memory.patch_bytesAt] at hsave
  exact ⟨restored, _, hruns, hsave, rfl⟩

/-- **The digits of a register are written and read back** into registers 0 to 2. -/
theorem exists_runs_decimal (hindex : m.index = start) (h : start + 2 < m.memory.size) :
    ∃ written, m.Runs ⟨0xF, x, 0x3, 0x3⟩ written ∧ ∃ hundreds tens units : UInt8,
      (hundreds.toNat ≤ 9 ∧ tens.toNat ≤ 9 ∧ units.toNat ≤ 9) ∧
      100 * hundreds.toNat + 10 * tens.toNat + units.toNat = (m.reg x).toNat ∧
      (written.memory.cells[start]? = some hundreds ∧
        written.memory.cells[start + 1]? = some tens ∧
        written.memory.cells[start + 2]? = some units) ∧
      (∀ a, a < start ∨ start + 2 < a → written.memory.cells[a]? = m.memory.cells[a]?) ∧
      ∃ loaded, written.Runs ⟨0xF, 0x2, 0x6, 0x5⟩ loaded ∧
        (loaded.reg 0x0 = hundreds ∧ loaded.reg 0x1 = tens ∧ loaded.reg 0x2 = units) ∧
        (∀ y, 0x2 < y → loaded.reg y = m.reg y) ∧
        loaded.memory = written.memory ∧ loaded.index = start := by
  obtain ⟨hundreds, tens, units, hdigits, hle, hsum⟩ := decimalDigits_eq (m.reg x)
  have hdecimal := runs_decimal (x := x) (inRange_index (x := 0x2) hindex h)
  have hstart : m.index.toNat = start := by omega
  have hsize : m.memory.cells.size = m.memory.size := rfl
  rw [hstart, hdigits] at hdecimal
  obtain ⟨written, hwritten, hcells, hindex', hregisters⟩ :
      ∃ written, m.Runs ⟨0xF, x, 0x3, 0x3⟩ written ∧
        written.memory = ⟨Memory.patch m.memory.cells start [hundreds, tens, units]⟩ ∧
        written.index = start ∧ written.registers = m.registers :=
    ⟨_, hdecimal, rfl, hindex, rfl⟩
  refine ⟨written, hwritten, hundreds, tens, units, hle, hsum, ?_, fun a ha => ?_, ?_⟩
  · have hdigit {i : Nat} (hi : i < 3) :
        written.memory.cells[start + i]? = [hundreds, tens, units][i]? := by
      rw [hcells, Memory.getElem?_patch, if_pos ⟨by omega, by simpa using hi, by omega⟩,
        Nat.add_sub_cancel_left]
    exact ⟨hdigit (i := 0) (by decide), hdigit (i := 1) (by decide), hdigit (i := 2) (by decide)⟩
  · rw [hcells, Memory.getElem?_patch, if_neg]
    simp only [List.length_cons, List.length_nil]
    omega
  · obtain ⟨loaded, hloaded, hreg, hsame⟩ :=
      exists_runs_restore_patch (x := 0x2) hindex' hcells rfl h
    refine ⟨loaded, hloaded, ⟨hreg 0x0, hreg 0x1, hreg 0x2⟩, fun y hy => ?_, hsame.2, hsame.1⟩
    have hy' : 2 < y.val := hy
    rw [hreg, List.getD_eq_getElem?_getD, List.getElem?_eq_none hy', reg, hregisters]
    rfl

end Start

/-- **What is saved is restored**, on every reachable machine and with the index at any address, as
long as all of it lies in memory.  Registers 0 to `x` become the bytes from the index on and no other
byte changes; a restore later on brings them back, whatever the registers hold by then, and leaves the
other registers and the index alone.  A restore and then a save leave memory as it was.  The three
decimal digits of a register become the bytes from the index on, and are loaded into registers 0
to 2. -/
theorem Reachable.save_restore_round_trip (hm : Reachable m) (x : Digit) (start : Nat) :
    (start + x.val ≤ 0xFFF →
      (∃ saved, Runs { m with index := start } ⟨0xF, x, 0x5, 0x5⟩ saved ∧ saved.index = start ∧
        (∀ y ≤ x, saved.memory.cells[start + y.val]? = some (m.reg y)) ∧
        (∀ a, a < start ∨ start + x.val < a →
          saved.memory.cells[a]? = m.memory.cells[a]?) ∧
        ∀ later : Machine, later.memory = saved.memory → later.index = saved.index →
          ∃ restored, later.Runs ⟨0xF, x, 0x6, 0x5⟩ restored ∧
            (∀ y ≤ x, restored.reg y = m.reg y) ∧ (∀ y, x < y → restored.reg y = later.reg y) ∧
            restored.index = start) ∧
      ∃ restored saved, Runs { m with index := start } ⟨0xF, x, 0x6, 0x5⟩ restored ∧
        restored.Runs ⟨0xF, x, 0x5, 0x5⟩ saved ∧ saved.memory = m.memory) ∧
    (start ≤ 0xFFD →
      ∃ written, Runs { m with index := start } ⟨0xF, x, 0x3, 0x3⟩ written ∧
        ∃ hundreds tens units : UInt8,
          (hundreds.toNat ≤ 9 ∧ tens.toNat ≤ 9 ∧ units.toNat ≤ 9) ∧
          100 * hundreds.toNat + 10 * tens.toNat + units.toNat = (m.reg x).toNat ∧
          (written.memory.cells[start]? = some hundreds ∧
            written.memory.cells[start + 1]? = some tens ∧
            written.memory.cells[start + 2]? = some units) ∧
          (∀ a, a < start ∨ start + 2 < a → written.memory.cells[a]? = m.memory.cells[a]?) ∧
          ∃ loaded, written.Runs ⟨0xF, 0x2, 0x6, 0x5⟩ loaded ∧
            (loaded.reg 0x0 = hundreds ∧ loaded.reg 0x1 = tens ∧ loaded.reg 0x2 = units) ∧
            (∀ y, 0x2 < y → loaded.reg y = m.reg y) ∧
            loaded.memory = written.memory ∧ loaded.index = start) := by
  have hsize := hm.wellFormed.memory_size
  refine ⟨fun hfits => ⟨?_, ?_⟩, fun hfits => ?_⟩
  · exact exists_runs_save (m := { m with index := start }) rfl
      (Nat.lt_of_le_of_lt hfits (by rw [hsize]; decide))
  · exact exists_runs_restore_save (m := { m with index := start }) rfl
      (Nat.lt_of_le_of_lt hfits (by rw [hsize]; decide))
  · exact exists_runs_decimal (m := { m with index := start }) rfl
      (Nat.lt_of_le_of_lt (Nat.add_le_add_right hfits 2) (by rw [hsize]; decide))

/-- Register 0, set to 0xFF, is saved at the last address and restored by a machine whose registers
have been cleared; its digits fill the last three addresses. -/
theorem Reachable.save_restore_round_trip_top :
    let m := (booted [0x60, 0xFF] [] false).run [.step]
    Reachable m ∧
      (∃ saved, Runs { m with index := 0xFFF } ⟨0xF, 0x0, 0x5, 0x5⟩ saved ∧
        saved.memory.cells[0xFFF]? = some 0xFF ∧
        ∃ restored, Runs { saved with registers := .replicate 16 0 } ⟨0xF, 0x0, 0x6, 0x5⟩ restored ∧
          restored.reg 0x0 = 0xFF) ∧
      ∃ written, Runs { m with index := 0xFFD } ⟨0xF, 0x0, 0x3, 0x3⟩ written ∧
        written.memory.cells[0xFFD]? = some 2 ∧ written.memory.cells[0xFFE]? = some 5 ∧
        written.memory.cells[0xFFF]? = some 5 := by
  intro m
  have hm : Reachable m := (Reachable.of_booted (by decide) [] false).run _
  have hreg : m.reg 0x0 = 0xFF := by decide +kernel
  obtain ⟨⟨saved, hsaved, -, hbytes, -, hlater⟩, -⟩ :=
    (Reachable.save_restore_round_trip hm 0x0 0xFFF).1 (by decide)
  obtain ⟨restored, hrestored, hback, -⟩ := hlater { saved with registers := .replicate 16 0 } rfl rfl
  obtain ⟨written, hwritten, hundreds, tens, units, ⟨hh, ht, hu⟩, hsum, hcells, -⟩ :=
    (Reachable.save_restore_round_trip hm 0x0 0xFFD).2 (by decide)
  have hvalue : (m.reg 0x0).toNat = 255 := by rw [hreg]; rfl
  obtain rfl : hundreds = 2 := UInt8.toNat_inj.1 (show hundreds.toNat = 2 by omega)
  obtain rfl : tens = 5 := UInt8.toNat_inj.1 (show tens.toNat = 5 by omega)
  obtain rfl : units = 5 := UInt8.toNat_inj.1 (show units.toNat = 5 by omega)
  exact ⟨hm, ⟨saved, hsaved, (hbytes 0x0 (by decide)).trans (congrArg some hreg), restored, hrestored,
    (hback 0x0 (by decide)).trans hreg⟩, written, hwritten, hcells⟩

end ChipEight.Machine
