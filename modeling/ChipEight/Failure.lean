import ChipEight.Text.Hex
import ChipEight.Text.Quoted

/-!
# Failure — everything that can stop a run

A failure is a cause; its wording is one function.  The failures of a *running program* form a type
of their own, `MachineFault`: after one of these the program counter is put back to the instruction
that failed.  All others come from the settings, from the files, from the keyboard or from the
outside clock.

* `MachineFault.message`, `Failure.message` — the wording;
* `cellCount_eq_ok_iff` — when a store of so many cells can be had;
* `Failure.haltsEmulation` — the failures that the command line reports and turns into status 1.
-/

namespace ChipEight

open Text

/-! ## Faults of a running program -/

/-- The name and version that head every report. -/
def banner : String := "CHIP-8 VM V1.0.0 -- "

/-- What a program that runs, or is loaded, can do wrong. -/
inductive MachineFault where
  /-- An access of `size` bytes at `location` leaves the memory, whose last address is `top`. -/
  | outOfBounds (size location top : Int)
  /-- A block of `length` bytes loaded at `location` runs past the last address `top`. -/
  | programTooLarge (length : Nat) (location top : Int)
  /-- One call too many for a stack of `limit` entries. -/
  | stackOverflow (limit : Int)
  /-- A return while no call is in progress. -/
  | stackUnderflow
  /-- The word `opcode` at `address` is no instruction; `report` shows the machine. -/
  | invalidOpcode (opcode address : Int) (report : String)
deriving DecidableEq, Repr

/-- The wording of a fault. -/
def MachineFault.message : MachineFault → String
  | .outOfBounds size location top =>
    s!"Memory access of {size} byte(s) at 0x" ++ Hex.padded 4 location
      ++ " is outside 0x000-0x" ++ Hex.padded 3 top
  | .programTooLarge length location top =>
    s!"{length} bytes loaded at 0x" ++ Hex.padded 3 location
      ++ " would exceed the top of memory (0x" ++ Hex.padded 3 top ++ ")"
  | .stackOverflow limit => s!"Stack overflow: more than {limit} nested subroutine calls"
  | .stackUnderflow => "Stack underflow: return with no subroutine call in progress"
  | .invalidOpcode opcode address report =>
    "Opcode 0x" ++ Hex.padded 4 opcode ++ " at address 0x" ++ Hex.padded 3 address
      ++ " is not a valid CHIP-8 instruction.\n\n" ++ banner ++ "Debug info:\n" ++ report

/-! ## Faults of what surrounds a run -/

/-- What can be wrong with a keymap. -/
inductive KeymapFault where
  /-- The number of fields is not sixteen. -/
  | fieldCount
  /-- A field is no integer. -/
  | notAnInteger
  /-- Two fields name the same code. -/
  | duplicate
deriving DecidableEq, Repr

/-- The wording of a fault. -/
def KeymapFault.message : KeymapFault → String
  | .fieldCount =>
    "Incorrect number of keys defined -- 16 required.  Use commas to split numbers"
  | .notAnInteger => "Defined keys are not all integer values"
  | .duplicate => "Duplicate keys defined"

/-- Why a file cannot be read. -/
inductive FileFault where
  | noSuchFile
  | notADirectory
  | isADirectory
  | nameTooLong
  /-- Any other reason, as the system words it. -/
  | other (number : Nat) (reason : String)
deriving DecidableEq, Repr

/-- The number the system gives a reason. -/
def FileFault.number : FileFault → Nat
  | .noSuchFile => 2
  | .notADirectory => 20
  | .isADirectory => 21
  | .nameTooLong => 36
  | .other number _ => number

/-- The wording of a reason. -/
def FileFault.reason : FileFault → String
  | .noSuchFile => "No such file or directory"
  | .notADirectory => "Not a directory"
  | .isADirectory => "Is a directory"
  | .nameTooLong => "File name too long"
  | .other _ reason => reason

/-- What can keep the emulator from starting. -/
inductive StartupFault where
  | clockSpeed
  | pixelSize
  | noWindowSystem
  | noTerminalSystem
  | noSystem
  | unreadableRom (name : String) (fault : FileFault)
deriving DecidableEq, Repr

/-- The wording of a fault. -/
def StartupFault.message : StartupFault → String
  | .clockSpeed => "Clock speed must be at least 1 instruction per second."
  | .pixelSize => "Pixel size must be at least 1."
  | .noWindowSystem => "PyGame does not appear to be installed."
  | .noTerminalSystem => "Curses (or Windows-Curses) does not appear to be installed."
  | .noSystem => "Neither PyGame nor Curses (or Windows-Curses) appear to be installed."
  | .unreadableRom name fault => "Unable to read ROM '" ++ name ++ "': " ++ fault.reason

/-! ## All failures -/

/-- Whether a numbered place was to be read or to be set. -/
inductive Access where
  | reading
  | setting
deriving DecidableEq, Repr

/-- Everything that can stop a run or an operation on one of its parts. -/
inductive Failure where
  /-- A fault of the running program. -/
  | machine (fault : MachineFault)
  /-- A fault of the keymap. -/
  | keymap (fault : KeymapFault)
  /-- The emulator cannot start. -/
  | startup (fault : StartupFault)
  /-- A display was asked for with a pixel size of zero or below. -/
  | pixelSize
  /-- A coordinate was to wrap around a side of length zero. -/
  | emptySide
  /-- A store was asked for with a negative number of cells. -/
  | negativeCount
  /-- A number too wide to count cells with. -/
  | countTooWide
  /-- A store was asked for with more cells than there is room for. -/
  | noRoom
  /-- A block holds a number that is no byte. -/
  | notAByte
  /-- There is no key of that number. -/
  | noSuchKey (access : Access)
  /-- There is no register of that number. -/
  | noSuchRegister
  /-- A number that does not fit into a register. -/
  | registerValue
  /-- A number too wide to count places with. -/
  | indexTooWide
  /-- A scheduler was asked for with a clock speed of zero or below. -/
  | clockSpeed
  /-- The elapsed time is not a number. -/
  | timeNotANumber
  /-- The elapsed time is infinite. -/
  | timeInfinite
  /-- A whole number is beyond every double. -/
  | beyondDoubles
  /-- A character number beyond the last code point, or below zero. -/
  | noSuchCharacter
  /-- A character number too wide to be looked at. -/
  | characterTooWide
  /-- The lower-case form of a character is not one character but `length`. -/
  | severalCharacters (length : Nat)
  /-- A blank cannot be repeated a fractional number of times. -/
  | fractionalRepeat
  /-- A setting is missing. -/
  | missingSetting (name : String)
  /-- A setting that must be a number was given without a value. -/
  | emptySetting
  /-- No display goes by the requested name. -/
  | unknownDisplay
  /-- No file is named. -/
  | noFileName
  /-- The name of a file holds the character NUL. -/
  | nulInName
  /-- A file cannot be read. -/
  | file (name : String) (fault : FileFault)
  /-- The user interrupted the run. -/
  | interrupted
  /-- The command line ended the run with a status. -/
  | exit (status : Nat)
deriving DecidableEq, Repr

/-- The wording of a failure. -/
def Failure.message : Failure → String
  | .machine fault => fault.message
  | .keymap fault => fault.message
  | .startup fault => fault.message
  | .pixelSize => "Pixel size must be at least 1."
  | .emptySide => "integer modulo by zero"
  | .negativeCount => "negative count"
  | .countTooWide => "cannot fit 'int' into an index-sized integer"
  | .noRoom => ""
  | .notAByte => "bytes must be in range(0, 256)"
  | .noSuchKey .reading => "list index out of range"
  | .noSuchKey .setting => "list assignment index out of range"
  | .noSuchRegister => "index out of bounds on dimension 1"
  | .registerValue => "memoryview: invalid value for format 'B'"
  | .indexTooWide => "cannot fit 'int' into an index-sized integer"
  | .clockSpeed => "Clock speed must be a positive number of instructions per second"
  | .timeNotANumber => "cannot convert float NaN to integer"
  | .timeInfinite => "cannot convert float infinity to integer"
  | .beyondDoubles => "int too large to convert to float"
  | .noSuchCharacter => "chr() arg not in range(0x110000)"
  | .characterTooWide => "Python int too large to convert to C int"
  | .severalCharacters length =>
    s!"ord() expected a character, but string of length {length} found"
  | .fractionalRepeat => "can't multiply sequence by non-int of type 'float'"
  | .missingSetting name => "'" ++ name ++ "'"
  | .emptySetting => "'<=' not supported between instances of 'list' and 'int'"
  | .unknownDisplay =>
    "cannot access local variable 'Renderer' where it is not associated with a value"
  | .noFileName => "expected str, bytes or os.PathLike object, not NoneType"
  | .nulInName => "embedded null byte"
  | .file name fault => s!"[Errno {fault.number}] " ++ fault.reason ++ ": " ++ quoted name
  | .interrupted => ""
  | .exit _ => ""

/-! ## Places and counts -/

/-- Places are counted with the numbers from minus this limit up to below it. -/
def placeLimit : Int := 0x8000000000000000

/-- Whether a number is too wide to count places with. -/
def tooWideForPlace (n : Int) : Bool :=
  n < -placeLimit || placeLimit ≤ n

/-- There is room for fewer cells than this. -/
def roomLimit : Int := 0x1000000000

/-- The number of cells of a store that may be asked for wrongly. -/
def cellCount (n : Int) : Except Failure Nat :=
  if tooWideForPlace n then .error .countTooWide
  else if n < 0 then .error .negativeCount
  else if roomLimit ≤ n then .error .noRoom
  else .ok n.toNat

/-- **A store can be had exactly if it has no negative number of cells and there is room for them.** -/
theorem cellCount_eq_ok_iff {n : Int} {cells : Nat} :
    cellCount n = .ok cells ↔ n = cells ∧ n < roomLimit := by
  unfold cellCount tooWideForPlace placeLimit roomLimit
  constructor
  · intro h
    split at h
    · simp at h
    · split at h
      · simp at h
      · split at h
        · simp at h
        · simp only [Except.ok.injEq] at h
          omega
  · rintro ⟨rfl, h⟩
    have h₁ : ¬(cells : Int) < 0 := by omega
    have h₂ : ¬(0x8000000000000000 : Int) ≤ cells := by omega
    have h₃ : ¬(cells : Int) < -0x8000000000000000 := by omega
    have h₄ : ¬(0x1000000000 : Int) ≤ cells := by omega
    simp [h₁, h₂, h₃, h₄]

/-! ## The kinds of failure -/

/-- Whether a failure is one of the running program. -/
def Failure.isMachineFault : Failure → Bool
  | .machine _ => true
  | _ => false

/-- The failures that the command line reports to its user; every other one ends it. -/
def Failure.haltsEmulation : Failure → Bool
  | .machine _ | .keymap _ | .startup _ | .pixelSize => true
  | _ => false

/-- A fault of the running program halts emulation. -/
theorem Failure.haltsEmulation_of_isMachineFault {failure : Failure}
    (h : failure.isMachineFault = true) : failure.haltsEmulation = true := by
  cases failure <;> simp_all [isMachineFault, haltsEmulation]

/-- A result that may be a failure, as an act that changes nothing. -/
def attempt {σ α : Type} : Except Failure α → EStateM Failure σ α
  | .ok a => pure a
  | .error failure => throw failure

/-- A result that is there is returned. -/
@[simp] theorem run_attempt_ok {σ α : Type} (a : α) (s : σ) :
    (attempt (.ok a) : EStateM Failure σ α).run s = .ok a s := rfl

/-- A failure is thrown, with nothing changed. -/
@[simp] theorem run_attempt_error {σ α : Type} (failure : Failure) (s : σ) :
    (attempt (.error failure) : EStateM Failure σ α).run s = .error failure s := rfl

end ChipEight
