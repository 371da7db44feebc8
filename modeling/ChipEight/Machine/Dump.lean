import ChipEight.Machine

/-!
# Machine/Dump — the machine as text

A dump is one line of registers, timers and the latest instruction.  A full dump adds the stack, the
earliest entry first, and the register that waits for a key.

* `dump` — the line;
* `fullDump` — the line and what follows it.
-/

namespace ChipEight.Machine

open Text

/-- The registers, VF first, two digits each. -/
def registersText (m : Machine) : String :=
  Hex.bytes m.registers.toList.reverse

/-- The line of registers, timers and the latest instruction, whose text is given. -/
def dump (m : Machine) (instruction : String) : String :=
  "V: 0x" ++ m.registersText ++ " I: 0x" ++ Hex.padded 4 m.index
    ++ " DT: 0x" ++ Hex.byte m.timers.delay ++ " DS: 0x" ++ Hex.byte m.timers.sound
    ++ " PC: 0x" ++ Hex.padded 3 m.origin ++ " OP: 0x" ++ Hex.padded 4 m.opcode
    ++ " IN: " ++ instruction

/-- The stack, the earliest entry first. -/
def stackText (m : Machine) : String :=
  match m.stack.toList with
  | [] => " (Empty)"
  | entries => String.join (entries.map fun entry => " 0x" ++ Hex.padded 3 entry)

/-- The line, the stack, and the register that waits for a key. -/
def fullDump (m : Machine) (instruction : String) : String :=
  m.dump instruction ++ "\nStack:" ++ m.stackText
    ++ if m.wait.active then "\nAwaiting keypress into V" ++ Hex.padded 1 m.wait.register.val else ""

end ChipEight.Machine
