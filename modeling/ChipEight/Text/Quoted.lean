import ChipEight.Text.Hex
import ChipEight.Text.Printable

/-!
# Text/Quoted — a text shown between quotes

A message shows a text that a user wrote between quotes: single ones, or double ones if the text
holds a single quote and no double one.  The quote in use and the backslash get a backslash, and
what is not printable is written as an escape of two, four or eight hexadecimal digits.

* `quoted` — the text between its quotes;
* `escapeChar_of_plain` — a printable character other than the quote and the backslash stays.
-/

namespace ChipEight.Text

/-- The quote that a text is shown between. -/
def quoteFor (cs : List Char) : Char :=
  if cs.contains '\'' && !cs.contains '"' then '"' else '\''

/-- An escape that gives a character's code. -/
def codeEscape (c : Char) : List Char :=
  if c.toNat < 0x100 then '\\' :: 'x' :: Hex.fill 2 (Hex.digits c.toNat)
  else if c.toNat < 0x10000 then '\\' :: 'u' :: Hex.fill 4 (Hex.digits c.toNat)
  else '\\' :: 'U' :: Hex.fill 8 (Hex.digits c.toNat)

/-- A character as it is written between two `quote`s. -/
def escapeChar (quote : Char) (c : Char) : List Char :=
  if c = quote ∨ c = '\\' then ['\\', c]
  else if c = '\n' then ['\\', 'n']
  else if c = '\r' then ['\\', 'r']
  else if c = '\t' then ['\\', 't']
  else if isPrintable c then [c]
  else codeEscape c

/-- A text between its quotes. -/
def quoted (text : String) : String :=
  let quote := quoteFor text.toList
  String.ofList (quote :: text.toList.flatMap (escapeChar quote) ++ [quote])

/-- A printable character other than the quote and the backslash stands for itself. -/
theorem escapeChar_of_plain {quote c : Char} (hq : c ≠ quote) (hb : c ≠ '\\')
    (hp : isPrintable c = true) (hn : c ≠ '\n') (hr : c ≠ '\r') (ht : c ≠ '\t') :
    escapeChar quote c = [c] := by
  simp [escapeChar, hq, hb, hp, hn, hr, ht]

end ChipEight.Text
