/-!
# Text/Hex — numbers in hexadecimal

Numbers are shown in small hexadecimal digits, filled with zeros to a least width.  The sign of a
negative number counts toward that width.

* `Hex.padded` — a number of any sign, to a least width;
* `Hex.byte` — a byte, always two digits;
* `Hex.bytes` — the bytes of a block, one after the other.
-/

namespace ChipEight.Text.Hex

/-- The digits of a number, most significant first, `0` for zero. -/
def digits (n : Nat) : List Char :=
  Nat.toDigits 16 n

/-- A list of digits, filled with zeros on the left to a least width. -/
def fill (width : Nat) (ds : List Char) : List Char :=
  List.replicate (width - ds.length) '0' ++ ds

/-- A number to a least width, in which the sign of a negative number counts. -/
def padded (width : Nat) (n : Int) : String :=
  if n < 0 then String.ofList ('-' :: fill (width - 1) (digits n.natAbs))
  else String.ofList (fill width (digits n.natAbs))

/-- A byte in two digits. -/
def byte (b : UInt8) : String :=
  padded 2 b.toNat

/-- A block of bytes, two digits each. -/
def bytes (block : List UInt8) : String :=
  String.join (block.map byte)

/-- Filling reaches the width and never cuts. -/
@[simp] theorem length_fill (width : Nat) (ds : List Char) :
    (fill width ds).length = max width ds.length := by
  simp only [fill, List.length_append, List.length_replicate]
  omega

end ChipEight.Text.Hex
