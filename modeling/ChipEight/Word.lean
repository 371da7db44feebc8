import ChipEight.KeySet

/-!
# Word — sixteen bits as four hexadecimal digits

An instruction word is read digit by digit: the first digit gives its kind, the other three are its
operands, alone or together.

* `Word.ofInt` — the low sixteen bits of a number of any sign and size;
* `Word.toNat_ofInt` — the four digits spell those bits;
* `Selector.key` — the digits of a word that decide which instruction it is.
-/

namespace ChipEight

/-- Four hexadecimal digits, the most significant first. -/
structure Word where
  /-- The kind of instruction. -/
  kind : Digit
  /-- The first register. -/
  x : Digit
  /-- The second register. -/
  y : Digit
  /-- The last digit. -/
  n : Digit
deriving DecidableEq, Repr

namespace Word

/-- The last hexadecimal digit of a number. -/
def lastDigit (n : Int) : Digit :=
  ⟨(n % 16).toNat, by omega⟩

/-- The low sixteen bits of a number, in two's complement if it is negative. -/
def ofInt (n : Int) : Word :=
  ⟨lastDigit (n / 0x1000), lastDigit (n / 0x100), lastDigit (n / 0x10), lastDigit n⟩

/-- The number that the four digits spell. -/
def toNat (w : Word) : Nat :=
  0x1000 * w.kind + 0x100 * w.x + 0x10 * w.y + w.n

/-- The byte of the last two digits. -/
def byte (w : Word) : UInt8 :=
  UInt8.ofNat (0x10 * w.y + w.n)

/-- The address of the last three digits. -/
def address (w : Word) : Fin 0x1000 :=
  ⟨0x100 * w.x + 0x10 * w.y + w.n, by omega⟩

/-- **The digits spell the low sixteen bits.** -/
theorem toNat_ofInt (n : Int) : ((ofInt n).toNat : Int) = n % 0x10000 := by
  simp only [ofInt, toNat, lastDigit]
  omega

/-- A word is given by its number. -/
@[simp] theorem ofInt_toNat (w : Word) : ofInt w.toNat = w := by
  obtain ⟨kind, x, y, n⟩ := w
  simp only [ofInt, toNat, lastDigit, Word.mk.injEq, Fin.ext_iff]
  omega

end Word

/-! ## The digits that decide -/

/-- The digits of a word that decide which instruction it is. -/
inductive Selector where
  /-- The first digit alone. -/
  | kind
  /-- The first digit and the last. -/
  | ends
  /-- All digits but the second. -/
  | allButX
  /-- All digits. -/
  | whole
deriving DecidableEq, Repr

/-- A word with the digits that do not decide replaced by zeros. -/
def Selector.key : Selector → Word → Nat
  | .kind, w => 0x1000 * w.kind
  | .ends, w => 0x1000 * w.kind + w.n
  | .allButX, w => 0x1000 * w.kind + 0x10 * w.y + w.n
  | .whole, w => w.toNat

end ChipEight
