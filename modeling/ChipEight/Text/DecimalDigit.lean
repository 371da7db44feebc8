/-!
# Text/DecimalDigit — the decimal digits of every script

A decimal digit is a character of Unicode's class `Nd` (version 14).  Each script that has digits
has them as a run of ten, from zero to nine, so a list of the zeros is the whole table.

* `digitValue?` — the value of a digit, `none` for every other character;
* `digitValue?_lt` — a value is below ten;
* `codeDigitValue?_ascii` — `0` … `9` are the digits of ASCII.
-/

namespace ChipEight.Text

/-- The code of each script's digit zero, ascending. -/
def digitZeros : List Nat := [
  0x30, 0x660, 0x6F0, 0x7C0, 0x966, 0x9E6, 0xA66, 0xAE6, 0xB66, 0xBE6, 0xC66, 0xCE6, 0xD66,
  0xDE6, 0xE50, 0xED0, 0xF20, 0x1040, 0x1090, 0x17E0, 0x1810, 0x1946, 0x19D0, 0x1A80, 0x1A90,
  0x1B50, 0x1BB0, 0x1C40, 0x1C50, 0xA620, 0xA8D0, 0xA900, 0xA9D0, 0xA9F0, 0xAA50, 0xABF0,
  0xFF10, 0x104A0, 0x10D30, 0x11066, 0x110F0, 0x11136, 0x111D0, 0x112F0, 0x11450, 0x114D0,
  0x11650, 0x116C0, 0x11730, 0x118E0, 0x11950, 0x11C50, 0x11D50, 0x11DA0, 0x16A60, 0x16AC0,
  0x16B50, 0x1D7CE, 0x1D7D8, 0x1D7E2, 0x1D7EC, 0x1D7F6, 0x1E140, 0x1E2F0, 0x1E950, 0x1FBF0]

/-- The value of a code point as a decimal digit. -/
def codeDigitValue? (code : Nat) : Option Nat :=
  (digitZeros.find? fun start => start ≤ code && code < start + 10).map (code - ·)

/-- The value of a character as a decimal digit. -/
def digitValue? (c : Char) : Option Nat :=
  codeDigitValue? c.toNat

/-- A digit's value is below ten. -/
theorem codeDigitValue?_lt {code value : Nat} (h : codeDigitValue? code = some value) :
    value < 10 := by
  obtain ⟨start, hstart, rfl⟩ := Option.map_eq_some_iff.1 h
  have := List.find?_some hstart
  simp only [Bool.and_eq_true, decide_eq_true_eq] at this
  omega

/-- A digit's value is below ten. -/
theorem digitValue?_lt {c : Char} {value : Nat} (h : digitValue? c = some value) : value < 10 :=
  codeDigitValue?_lt h

/-- **The ten ASCII digits have their usual values.** -/
theorem codeDigitValue?_ascii {value : Nat} (h : value < 10) :
    codeDigitValue? (0x30 + value) = some value := by
  have all : ∀ v ∈ List.range 10, codeDigitValue? (0x30 + v) = some v := by decide
  exact all value (List.mem_range.2 h)

end ChipEight.Text
