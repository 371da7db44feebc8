import ChipEight.Text.Blank
import ChipEight.Text.DecimalDigit

/-!
# Text/Integer — the integers a user may write

An integer is written as an optional sign and decimal digits of any script, with at most one
underscore between two digits and blanks around the whole.  More than 4300 digits are refused.

* `readInteger?` — the value of a text, `none` where it is no integer;
* `valueOfDigits_append_singleton` — a digit appended multiplies by ten and adds.
-/

namespace ChipEight.Text

/-- The most digits an integer may have; leading zeros count, underscores do not. -/
def maxIntegerDigits : Nat := 4300

/-- The digits that follow a digit: each may have one underscore before it. -/
def furtherDigits? : List Char → Option (List Nat)
  | [] => some []
  | '_' :: c :: rest => do
    let digit ← digitValue? c
    return digit :: (← furtherDigits? rest)
  | c :: rest => do
    let digit ← digitValue? c
    return digit :: (← furtherDigits? rest)

/-- The digits of an unsigned integer; there is at least one. -/
def digits? : List Char → Option (List Nat)
  | [] => none
  | c :: rest => do
    let digit ← digitValue? c
    return digit :: (← furtherDigits? rest)

/-- The number that digits spell, most significant first. -/
def valueOfDigits (digits : List Nat) : Nat :=
  digits.foldl (fun value digit => 10 * value + digit) 0

/-- A digit appended multiplies by ten and adds. -/
@[simp] theorem valueOfDigits_append_singleton (digits : List Nat) (digit : Nat) :
    valueOfDigits (digits ++ [digit]) = 10 * valueOfDigits digits + digit := by
  simp [valueOfDigits]

/-- The value of an unsigned integer with few enough digits. -/
def readUnsigned? (cs : List Char) : Option Nat := do
  let digits ← digits? cs
  if digits.length ≤ maxIntegerDigits then some (valueOfDigits digits) else none

/-- The value of a signed integer without blanks around it. -/
def readSigned? : List Char → Option Int
  | '-' :: rest => (readUnsigned? rest).map fun value => -(value : Int)
  | '+' :: rest => (readUnsigned? rest).map Int.ofNat
  | rest => (readUnsigned? rest).map Int.ofNat

/-- The value of an integer as a user may write it. -/
def readInteger? (text : String) : Option Int :=
  readSigned? (trimBlanks text.toList)

end ChipEight.Text
