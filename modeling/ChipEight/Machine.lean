import ChipEight.CallStack
import ChipEight.Font
import ChipEight.Framebuffer
import ChipEight.Memory
import ChipEight.Timers
import ChipEight.Word

/-!
# Machine — the state of the CHIP-8 machine

A machine is its memory, stack, display, keypad, timers, sixteen registers, index, program counter,
the wait for a key, and the random bytes to come.

* `Machine.build` — a machine with the font and a program in memory;
* `Machine.bare` — a machine of parts of other sizes, without the font.
-/

namespace ChipEight

/-- A wait for a key.  The register stays known after the wait has ended. -/
structure KeyWait where
  /-- Whether the machine is waiting. -/
  active : Bool
  /-- The register that receives the key. -/
  register : Digit
  /-- The keys that have been down ever since the wait began; these do not end it. -/
  held : KeySet
deriving DecidableEq, Repr

/-- The state of the machine. -/
structure Machine where
  memory : Memory
  stack : CallStack
  display : Framebuffer
  /-- The keys that are down. -/
  keypad : KeySet
  timers : Timers
  /-- The registers V0 to VF. -/
  registers : Vector UInt8 16
  /-- The index register. -/
  index : Int
  /-- The address of the next instruction. -/
  pc : Int
  /-- The address of the instruction that was last begun. -/
  origin : Int
  /-- The word that was last fetched. -/
  opcode : Int
  wait : KeyWait
  /-- The random bytes to come; zeros follow the last one. -/
  random : List UInt8
  /-- Whether every instruction is shown before it runs. -/
  live : Bool
deriving DecidableEq, Repr

namespace Machine

/-! ## Building -/

/-- The size of the CHIP-8 memory. -/
def memorySize : Nat := 0x1000

/-- The address where programs begin. -/
def programStart : Nat := 0x200

/-- The depth of the CHIP-8 stack. -/
def stackDepth : Nat := 16

/-- A machine at rest around a memory, a stack and a display. -/
def ofParts (memory : Memory) (stack : CallStack) (display : Framebuffer) (random : List UInt8)
    (live : Bool) : Machine where
  memory
  stack
  display
  keypad := ∅
  timers := .zero
  registers := Vector.replicate 16 0
  index := 0
  pc := programStart
  origin := programStart
  opcode := 0
  wait := ⟨false, 0, ∅⟩
  random
  live

/-- A machine with the font and a program in memory, unless the program is too large. -/
def build (program : List Int) (random : List UInt8) (live : Bool) : Except Failure Machine := do
  let memory ← (Memory.blank memorySize).load (Font.bytes.map fun b => (b.toNat : Int)) Font.start
  let memory ← memory.load program programStart
  return ofParts memory (.empty stackDepth) .display random live

/-- A machine of parts of given sizes, without the font; the program is loaded at the usual address
or at the last one, whichever comes first. -/
def bare (memory stack width height : Int) (program : List Int) (random : List UInt8)
    (live : Bool) : Except Failure Machine := do
  let blank ← Memory.ofSize memory
  let display ← Framebuffer.ofSize width height
  let loaded ← blank.load program (min (programStart : Int) (memory - 1))
  return ofParts loaded (.empty stack) display random live

/-! ## Registers -/

/-- The value of a register. -/
def reg (m : Machine) (x : Digit) : UInt8 :=
  m.registers.get x

/-- The register that receives flags. -/
def flagRegister : Digit := 0xF

/-- The register that a jump with an offset adds. -/
def offsetRegister : Digit := 0

/-- A register set to a byte. -/
def setReg (m : Machine) (x : Digit) (b : UInt8) : Machine :=
  { m with registers := m.registers.set x b x.val_lt }

/-- A register set to a result, and then the flag register to one or zero. -/
def setRegFlag (m : Machine) (x : Digit) (b : UInt8) (flag : Bool) : Machine :=
  (m.setReg x b).setReg flagRegister (if flag then 1 else 0)

/-- Registers from `first` on set to bytes; what runs past the last register is dropped. -/
def fillRegs (registers : Vector UInt8 16) (first : Nat) : List UInt8 → Vector UInt8 16
  | [] => registers
  | b :: rest => fillRegs (registers.setIfInBounds first b) (first + 1) rest

/-- A register set by its number, -16 to -1 counting from the end; the number may be wrong, and so
may the value. -/
def setRegNumber (m : Machine) (register value : Int) : Except Failure Machine :=
  if tooWideForPlace register then .error .indexTooWide
  else if register < -16 ∨ 16 ≤ register then .error .noSuchRegister
  else if value < 0 ∨ 255 < value then .error .registerValue
  else .ok (m.setReg (Word.lastDigit register) (UInt8.ofInt value))

@[simp] theorem reg_setReg (m : Machine) (x y : Digit) (b : UInt8) :
    (m.setReg x b).reg y = if x = y then b else m.reg y := by
  simp only [reg, setReg, Digit.get_set]

/-- Filling registers lays the bytes over them. -/
theorem toArray_fillRegs (registers : Vector UInt8 16) (first : Nat) (bytes : List UInt8) :
    (fillRegs registers first bytes).toArray = Memory.patch registers.toArray first bytes := by
  induction bytes generalizing registers first with
  | nil => rfl
  | cons b rest ih => rw [fillRegs, ih, Memory.patch, Vector.toArray_setIfInBounds]

/-- **Bytes fill exactly the registers they are put into.** -/
theorem some_get_fillRegs (registers : Vector UInt8 16) (first : Nat) (bytes : List UInt8)
    (y : Digit) :
    some ((fillRegs registers first bytes).get y) =
      if first ≤ y.val ∧ y.val < first + bytes.length then bytes[y.val - first]?
      else some (registers.get y) := by
  have hget (v : Vector UInt8 16) : some (v.get y) = v.toArray[y.val]? := by
    have hy : y.val < v.toArray.size := by
      rw [Vector.size_toArray]
      exact y.isLt
    rw [Array.getElem?_eq_getElem hy]
    rfl
  rw [hget, hget, toArray_fillRegs, Memory.getElem?_patch]
  simp only [registers.size_toArray, y.isLt, and_true]

end Machine

end ChipEight
