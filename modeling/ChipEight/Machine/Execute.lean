import ChipEight.Instruction
import ChipEight.Machine

/-!
# Machine/Execute — what each instruction does

What an instruction does is an `Effect`: it changes the machine and may fail on the way, and after a
failure the machine is as the effect left it.  When it begins, the program counter already points
past the instruction.

* `execute` — the effect of an instruction.
-/

namespace ChipEight.Machine

/-- What an instruction does to a machine. -/
abbrev Effect := EStateM Failure Machine Unit

/-- The program counter moved on by one instruction, within sixteen bits. -/
def advancePc (m : Machine) : Machine :=
  { m with pc := (m.pc + 2) % 0x10000 }

/-- The next instruction skipped if a condition holds. -/
def skipIf (m : Machine) (condition : Bool) : Machine :=
  if condition then m.advancePc else m

/-- A call: the program counter goes on the stack. -/
def callTo (target : Int) : Effect := do
  let m ← get
  let stack ← attempt (m.stack.push m.pc)
  set { m with stack }
  modify fun m => { m with pc := target }

/-- A return: the program counter comes from the stack. -/
def returnFromCall : Effect := do
  let m ← get
  let (pc, stack) ← attempt m.stack.pop
  set { m with stack, pc }

/-- A random byte, masked, in a register. -/
def rollInto (m : Machine) (x : Digit) (mask : UInt8) : Machine :=
  { m.setReg x (m.random.headD 0 &&& mask) with random := m.random.tail }

/-- A draw of the sprite of `rows` rows at the index.  The whole sprite is read first; the flag is the
collision. -/
def drawAt (x y : Digit) (rows : Nat) : Effect := do
  let m ← get
  let sprite ← attempt (m.memory.readBlock m.index rows)
  if m.display.width = 0 ∨ m.display.height = 0 then throw .emptySide
  let (display, collision) ← attempt (m.display.drawSprite
    (Int.fmod (m.reg x).toNat m.display.width) (Int.fmod (m.reg y).toNat m.display.height) sprite)
  set { m with display }
  modify (·.setReg flagRegister (if collision then 1 else 0))

/-- Whether the key in a register is down. -/
def keyDown (m : Machine) (x : Digit) : Bool :=
  m.keypad.contains (Digit.ofByte (m.reg x))

/-- The wait for a key begun: the keys that are down now do not end it. -/
def beginWait (m : Machine) (x : Digit) : Machine :=
  { m with wait := ⟨true, x, m.keypad⟩ }

/-- The three decimal digits of a byte, hundreds first. -/
def decimalDigits (b : UInt8) : List UInt8 :=
  [b / 100, b / 10 % 10, b % 10]

/-- Bytes written at the index. -/
def store (bytes : List UInt8) : Effect := do
  let m ← get
  let memory ← attempt (m.memory.writeBytes m.index bytes)
  set { m with memory }

/-- Registers 0 to `x` read at the index. -/
def restoreFrom (x : Digit) : Effect := do
  let m ← get
  let block ← attempt (m.memory.readBlock m.index (x.val + 1 : Nat))
  set { m with registers := fillRegs m.registers 0 block }

/-- **The effect of an instruction.** -/
def execute : Instruction → Effect
  | .clear => modify fun m => { m with display := m.display.clear }
  | .ret => returnFromCall
  | .jump target => modify fun m => { m with pc := target.val }
  | .call target => callTo target.val
  | .skipIfByte x b => modify fun m => m.skipIf (m.reg x == b)
  | .skipUnlessByte x b => modify fun m => m.skipIf (m.reg x != b)
  | .skipIfEqual x y => modify fun m => m.skipIf (m.reg x == m.reg y)
  | .skipUnlessEqual x y => modify fun m => m.skipIf (m.reg x != m.reg y)
  | .setByte x b => modify fun m => m.setReg x b
  | .addByte x b => modify fun m => m.setReg x (m.reg x + b)
  | .copy x y => modify fun m => m.setReg x (m.reg y)
  | .bitOr x y => modify fun m => m.setReg x (m.reg x ||| m.reg y)
  | .bitAnd x y => modify fun m => m.setReg x (m.reg x &&& m.reg y)
  | .bitXor x y => modify fun m => m.setReg x (m.reg x ^^^ m.reg y)
  | .add x y => modify fun m =>
    m.setRegFlag x (m.reg x + m.reg y) (255 < (m.reg x).toNat + (m.reg y).toNat)
  | .sub x y => modify fun m => m.setRegFlag x (m.reg x - m.reg y) (m.reg y ≤ m.reg x)
  | .shiftRight x => modify fun m => m.setRegFlag x (m.reg x / 2) (m.reg x % 2 == 1)
  | .subFrom x y => modify fun m => m.setRegFlag x (m.reg y - m.reg x) (m.reg x ≤ m.reg y)
  | .shiftLeft x => modify fun m => m.setRegFlag x (m.reg x + m.reg x) (128 ≤ m.reg x)
  | .setIndex target => modify fun m => { m with index := target.val }
  | .jumpOffset base => modify fun m => { m with pc := (m.reg offsetRegister).toNat + base.val }
  | .random x mask => modify fun m => m.rollInto x mask
  | .draw x y rows => drawAt x y rows.val
  | .skipIfKey x => modify fun m => m.skipIf (m.keyDown x)
  | .skipUnlessKey x => modify fun m => m.skipIf (!m.keyDown x)
  | .getDelay x => modify fun m => m.setReg x m.timers.delay
  | .awaitKey x => modify fun m => m.beginWait x
  | .setDelay x => modify fun m => { m with timers := { m.timers with delay := m.reg x } }
  | .setSound x => modify fun m => { m with timers := { m.timers with sound := m.reg x } }
  | .addIndex x => modify fun m => { m with index := (m.index + (m.reg x).toNat) % 0x10000 }
  | .glyph x => modify fun m => { m with index := Font.address (Digit.ofByte (m.reg x)) }
  | .decimal x => do store (decimalDigits ((← get).reg x))
  | .save x => do store ((← get).registers.toList.take (x.val + 1))
  | .restore x => restoreFrom x

end ChipEight.Machine
