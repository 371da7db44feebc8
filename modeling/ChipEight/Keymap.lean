import ChipEight.KeySet
import ChipEight.Text.Integer
import ChipEight.Text.LetterCase

/-!
# Keymap — which code stands for which key

A keymap is written as sixteen integers between commas, the codes of the keys 0 to F.  For a terminal
the codes are characters and are taken in lower case.  No code may stand for two keys.  The number of
fields is looked at first, then the fields from left to right.

* `Keymap.parse` — the keymap of a text, or the first thing that is wrong with it;
* `Keymap.key?` — the key of a code;
* `lowerCode` — the code of a character's lower-case form.
-/

namespace ChipEight

open Text

/-- Characters are numbered with the numbers from minus this limit up to below it, of which most
number none. -/
def characterLimit : Int := 0x80000000

/-- The code of a character's lower-case form, where that form is one character. -/
def lowerCode (code : Int) : Except Failure Int :=
  if code < -characterLimit ∨ characterLimit ≤ code then .error .characterTooWide
  else if code < 0 ∨ 0x110000 ≤ code then .error .noSuchCharacter
  else
    match lowerCase code.toNat with
    | [small] => .ok small
    | several => .error (.severalCharacters several.length)

/-- Codes and the keys they stand for. -/
structure Keymap where
  entries : List (Int × Digit)
deriving DecidableEq, Repr

namespace Keymap

/-- The key of a code. -/
def key? (k : Keymap) (code : Int) : Option Digit :=
  k.entries.lookup code

/-- The code that a field names, in lower case if asked for. -/
def fieldCode (lower : Bool) (field : String) : Except Failure Int := do
  let some code := readInteger? field | throw (.keymap .notAnInteger)
  if lower then lowerCode code else return code

/-- The entries of the fields that are left, after those read so far, the latest first. -/
def readFields (lower : Bool) (entries : List (Int × Digit)) :
    List (String × Digit) → Except Failure (List (Int × Digit))
  | [] => .ok entries.reverse
  | (field, key) :: rest => do
    let code ← fieldCode lower field
    if (entries.lookup code).isSome then throw (.keymap .duplicate)
    readFields lower ((code, key) :: entries) rest

/-- The fields of a text: what stands between its commas. -/
def fields (text : String) : List String :=
  (text.toList.splitOnP (· == ',')).map String.ofList

/-- The keymap of a text. -/
def parse (text : String) (lower : Bool) : Except Failure Keymap := do
  if (fields text).length ≠ 16 then throw (.keymap .fieldCount)
  return ⟨← readFields lower [] ((fields text).zip (List.finRange 16))⟩

/-- The usual keymap: the four by four block of letters and digits at the left of a keyboard. -/
def usual : String := "120,49,50,51,113,119,101,97,115,100,122,99,52,114,102,118"

end Keymap

end ChipEight
