import ChipEight.Word

/-!
# Instruction — what a program can tell the machine to do

There are thirty-four instructions.  An operand is a register, a byte, an address or a number of
rows.

* `Instruction.text` — the assembler text of an instruction.
-/

namespace ChipEight

open Text

/-- The instructions. -/
inductive Instruction where
  /-- Clears the display. -/
  | clear
  /-- Returns from a call. -/
  | ret
  /-- Jumps to an address. -/
  | jump (target : Fin 0x1000)
  /-- Calls the routine at an address. -/
  | call (target : Fin 0x1000)
  /-- Skips the next instruction if a register holds a byte. -/
  | skipIfByte (x : Digit) (byte : UInt8)
  /-- Skips the next instruction unless a register holds a byte. -/
  | skipUnlessByte (x : Digit) (byte : UInt8)
  /-- Skips the next instruction if two registers are equal. -/
  | skipIfEqual (x y : Digit)
  /-- Skips the next instruction unless two registers are equal. -/
  | skipUnlessEqual (x y : Digit)
  /-- Puts a byte into a register. -/
  | setByte (x : Digit) (byte : UInt8)
  /-- Adds a byte to a register, without a flag. -/
  | addByte (x : Digit) (byte : UInt8)
  /-- Copies register `y` into register `x`. -/
  | copy (x y : Digit)
  /-- Bitwise or. -/
  | bitOr (x y : Digit)
  /-- Bitwise and. -/
  | bitAnd (x y : Digit)
  /-- Bitwise exclusive or. -/
  | bitXor (x y : Digit)
  /-- Adds register `y` to register `x`; the flag is the carry. -/
  | add (x y : Digit)
  /-- Subtracts register `y` from register `x`; the flag is set if nothing is borrowed. -/
  | sub (x y : Digit)
  /-- Halves a register; the flag is the bit shifted out. -/
  | shiftRight (x : Digit)
  /-- Subtracts register `x` from register `y` into `x`; the flag is set if nothing is borrowed. -/
  | subFrom (x y : Digit)
  /-- Doubles a register; the flag is the bit shifted out. -/
  | shiftLeft (x : Digit)
  /-- Points the index at an address. -/
  | setIndex (target : Fin 0x1000)
  /-- Jumps to an address plus register 0. -/
  | jumpOffset (base : Fin 0x1000)
  /-- Puts a random byte, masked, into a register. -/
  | random (x : Digit) (mask : UInt8)
  /-- Draws the sprite of `rows` rows at the index. -/
  | draw (x y : Digit) (rows : Digit)
  /-- Skips the next instruction if the key in a register is down. -/
  | skipIfKey (x : Digit)
  /-- Skips the next instruction unless the key in a register is down. -/
  | skipUnlessKey (x : Digit)
  /-- Reads the delay timer. -/
  | getDelay (x : Digit)
  /-- Waits for a key. -/
  | awaitKey (x : Digit)
  /-- Sets the delay timer. -/
  | setDelay (x : Digit)
  /-- Sets the sound timer. -/
  | setSound (x : Digit)
  /-- Adds a register to the index. -/
  | addIndex (x : Digit)
  /-- Points the index at the picture of the digit in a register. -/
  | glyph (x : Digit)
  /-- Writes the three decimal digits of a register at the index. -/
  | decimal (x : Digit)
  /-- Writes registers 0 to `x` at the index. -/
  | save (x : Digit)
  /-- Reads registers 0 to `x` at the index. -/
  | restore (x : Digit)
deriving DecidableEq, Repr

namespace Instruction

/-- The name of a register. -/
def register (x : Digit) : String :=
  "V" ++ Hex.padded 1 x.val

/-- An address operand. -/
def addressText (a : Fin 0x1000) : String :=
  "0x" ++ Hex.padded 3 a.val

/-- A byte operand. -/
def byteText (b : UInt8) : String :=
  "0x" ++ Hex.byte b

/-- The assembler text of an instruction. -/
def text : Instruction → String
  | clear => "CLS"
  | ret => "RET"
  | jump a => "JP " ++ addressText a
  | call a => "CALL " ++ addressText a
  | skipIfByte x b => "SE " ++ register x ++ ", " ++ byteText b
  | skipUnlessByte x b => "SNE " ++ register x ++ ", " ++ byteText b
  | skipIfEqual x y => "SE " ++ register x ++ ", " ++ register y
  | skipUnlessEqual x y => "SNE " ++ register x ++ ", " ++ register y
  | setByte x b => "LD " ++ register x ++ ", " ++ byteText b
  | addByte x b => "ADD " ++ register x ++ ", " ++ byteText b
  | copy x y => "LD " ++ register x ++ ", " ++ register y
  | bitOr x y => "OR " ++ register x ++ ", " ++ register y
  | bitAnd x y => "AND " ++ register x ++ ", " ++ register y
  | bitXor x y => "XOR " ++ register x ++ ", " ++ register y
  | add x y => "ADD " ++ register x ++ ", " ++ register y
  | sub x y => "SUB " ++ register x ++ ", " ++ register y
  | shiftRight x => "SHR " ++ register x
  | subFrom x y => "SUBN " ++ register x ++ ", " ++ register y
  | shiftLeft x => "SHL " ++ register x
  | setIndex a => "LD I, " ++ addressText a
  | jumpOffset a => "JP V0, " ++ addressText a
  | random x b => "RND " ++ register x ++ ", " ++ byteText b
  | draw x y n => "DRW " ++ register x ++ ", " ++ register y ++ ", 0x" ++ Hex.padded 1 n.val
  | skipIfKey x => "SKP " ++ register x
  | skipUnlessKey x => "SKNP " ++ register x
  | getDelay x => "LD " ++ register x ++ ", DT"
  | awaitKey x => "LD " ++ register x ++ ", K"
  | setDelay x => "LD DT, " ++ register x
  | setSound x => "LD ST, " ++ register x
  | addIndex x => "ADD I, " ++ register x
  | glyph x => "LD F, " ++ register x
  | decimal x => "LD B, " ++ register x
  | save x => "LD [I], " ++ register x
  | restore x => "LD " ++ register x ++ ", [I]"

end Instruction

end ChipEight
