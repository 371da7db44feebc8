import ChipEight.KeySet

/-!
# Font — the pictures of the sixteen digits

Every hexadecimal digit has a picture of five rows, four pixels wide, in the high half of a byte.
The pictures lie one after the other from address zero.

* `Font.length_bytes` — eighty bytes in all.
-/

namespace ChipEight.Font

/-- The rows of one picture. -/
def glyphSize : Nat := 5

/-- The address of the first picture. -/
def start : Nat := 0

/-- The pictures of the digits 0 to F. -/
def bytes : List UInt8 := [
  0xF0, 0x90, 0x90, 0x90, 0xF0,
  0x20, 0x60, 0x20, 0x20, 0x70,
  0xF0, 0x10, 0xF0, 0x80, 0xF0,
  0xF0, 0x10, 0xF0, 0x10, 0xF0,
  0x90, 0x90, 0xF0, 0x10, 0x10,
  0xF0, 0x80, 0xF0, 0x10, 0xF0,
  0xF0, 0x80, 0xF0, 0x90, 0xF0,
  0xF0, 0x10, 0x20, 0x40, 0x40,
  0xF0, 0x90, 0xF0, 0x90, 0xF0,
  0xF0, 0x90, 0xF0, 0x10, 0xF0,
  0xF0, 0x90, 0xF0, 0x90, 0x90,
  0xE0, 0x90, 0xE0, 0x90, 0xE0,
  0xF0, 0x80, 0x80, 0x80, 0xF0,
  0xE0, 0x90, 0x90, 0x90, 0xE0,
  0xF0, 0x80, 0xF0, 0x80, 0xF0,
  0xF0, 0x80, 0xF0, 0x80, 0x80]

/-- The address of a digit's picture. -/
def address (d : Digit) : Nat :=
  start + glyphSize * d.val

/-- The font takes eighty bytes. -/
theorem length_bytes : bytes.length = 16 * glyphSize := rfl

end ChipEight.Font
