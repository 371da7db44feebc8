import ChipEight.Instruction

/-!
# Instruction/Mnemonic — words as assembler text

A row of the mnemonic table names the digits that decide, their value, and the text with its
operands.  A word is shown by the first row that it matches.

* `disassemble` — the text of a word, `???` if no row matches.
-/

namespace ChipEight.Instruction

open Text

/-- A piece of a mnemonic. -/
inductive Piece where
  | text (s : String)
  | x
  | y
  | n
  | byte
  | address
deriving DecidableEq, Repr

/-- A piece with the operands of a word. -/
def Piece.show (w : Word) : Piece → String
  | .text s => s
  | .x => "V" ++ Hex.padded 1 w.x.val
  | .y => "V" ++ Hex.padded 1 w.y.val
  | .n => "0x" ++ Hex.padded 1 w.n.val
  | .byte => "0x" ++ Hex.byte w.byte
  | .address => "0x" ++ Hex.padded 3 w.address.val

/-- A row of the mnemonic table. -/
structure Mnemonic where
  selector : Selector
  value : Nat
  pieces : List Piece
deriving DecidableEq, Repr

/-- Whether a word matches a row. -/
def Mnemonic.matches (row : Mnemonic) (w : Word) : Bool :=
  row.selector.key w == row.value

/-- The text of a row with the operands of a word. -/
def Mnemonic.show (row : Mnemonic) (w : Word) : String :=
  String.join (row.pieces.map (·.show w))

/-- The mnemonic table. -/
def mnemonics : List Mnemonic := [
  ⟨.whole, 0x00E0, [.text "CLS"]⟩,
  ⟨.whole, 0x00EE, [.text "RET"]⟩,
  ⟨.kind, 0x1000, [.text "JP ", .address]⟩,
  ⟨.kind, 0x2000, [.text "CALL ", .address]⟩,
  ⟨.kind, 0x3000, [.text "SE ", .x, .text ", ", .byte]⟩,
  ⟨.kind, 0x4000, [.text "SNE ", .x, .text ", ", .byte]⟩,
  ⟨.ends, 0x5000, [.text "SE ", .x, .text ", ", .y]⟩,
  ⟨.kind, 0x6000, [.text "LD ", .x, .text ", ", .byte]⟩,
  ⟨.kind, 0x7000, [.text "ADD ", .x, .text ", ", .byte]⟩,
  ⟨.ends, 0x8000, [.text "LD ", .x, .text ", ", .y]⟩,
  ⟨.ends, 0x8001, [.text "OR ", .x, .text ", ", .y]⟩,
  ⟨.ends, 0x8002, [.text "AND ", .x, .text ", ", .y]⟩,
  ⟨.ends, 0x8003, [.text "XOR ", .x, .text ", ", .y]⟩,
  ⟨.ends, 0x8004, [.text "ADD ", .x, .text ", ", .y]⟩,
  ⟨.ends, 0x8005, [.text "SUB ", .x, .text ", ", .y]⟩,
  ⟨.ends, 0x8006, [.text "SHR ", .x]⟩,
  ⟨.ends, 0x8007, [.text "SUBN ", .x, .text ", ", .y]⟩,
  ⟨.ends, 0x800E, [.text "SHL ", .x]⟩,
  ⟨.ends, 0x9000, [.text "SNE ", .x, .text ", ", .y]⟩,
  ⟨.kind, 0xA000, [.text "LD I, ", .address]⟩,
  ⟨.kind, 0xB000, [.text "JP V0, ", .address]⟩,
  ⟨.kind, 0xC000, [.text "RND ", .x, .text ", ", .byte]⟩,
  ⟨.kind, 0xD000, [.text "DRW ", .x, .text ", ", .y, .text ", ", .n]⟩,
  ⟨.allButX, 0xE09E, [.text "SKP ", .x]⟩,
  ⟨.allButX, 0xE0A1, [.text "SKNP ", .x]⟩,
  ⟨.allButX, 0xF007, [.text "LD ", .x, .text ", DT"]⟩,
  ⟨.allButX, 0xF00A, [.text "LD ", .x, .text ", K"]⟩,
  ⟨.allButX, 0xF015, [.text "LD DT, ", .x]⟩,
  ⟨.allButX, 0xF018, [.text "LD ST, ", .x]⟩,
  ⟨.allButX, 0xF01E, [.text "ADD I, ", .x]⟩,
  ⟨.allButX, 0xF029, [.text "LD F, ", .x]⟩,
  ⟨.allButX, 0xF033, [.text "LD B, ", .x]⟩,
  ⟨.allButX, 0xF055, [.text "LD [I], ", .x]⟩,
  ⟨.allButX, 0xF065, [.text "LD ", .x, .text ", [I]"]⟩]

/-- What is shown of a word that is no instruction. -/
def unknown : String := "???"

/-- The text of the low sixteen bits of a number. -/
def disassemble (opcode : Int) : String :=
  let w := Word.ofInt opcode
  match mnemonics.find? (·.matches w) with
  | some row => row.show w
  | none => unknown

end ChipEight.Instruction
