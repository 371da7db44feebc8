/-!
# CommandLine/Option — the options of the command line

Each option has a short and a long name.  Some take a value; the name of that value stands in the
usage text.

* `OptionName.all` — the options in the order of the help text;
* `OptionName.flags` — every spelling with the option it names, in that order.
-/

namespace ChipEight.CommandLine

/-- The options. -/
inductive OptionName where
  | help
  | clockSpeed
  | pixelSize
  | renderer
  | mute
  | keymap
  | debug
  | version
deriving DecidableEq, Repr

namespace OptionName

/-- The options in the order of the help text. -/
def all : List OptionName :=
  [help, clockSpeed, pixelSize, renderer, mute, keymap, debug, version]

/-- The short name. -/
def short : OptionName → String
  | help => "-h"
  | clockSpeed => "-c"
  | pixelSize => "-p"
  | renderer => "-r"
  | mute => "-m"
  | keymap => "-k"
  | debug => "-d"
  | version => "-V"

/-- The long name. -/
def long : OptionName → String
  | help => "--help"
  | clockSpeed => "--clockspeed"
  | pixelSize => "--pixelsize"
  | renderer => "--renderer"
  | mute => "--mute"
  | keymap => "--keymap"
  | debug => "--debug"
  | version => "--version"

/-- The displays that may be asked for. -/
def rendererChoices : List String := ["pygame", "curses", "null"]

/-- The values that the buzzer may be muted with. -/
def muteChoices : List Int := [0, 1]

/-- Choices as a set in braces. -/
def choiceSet (choices : List String) : String :=
  "\x7b" ++ ",".intercalate choices ++ "\x7d"

/-- How the value is called, for an option that takes one. -/
def valueName? : OptionName → Option String
  | clockSpeed => some "CLOCKSPEED"
  | pixelSize => some "PIXELSIZE"
  | renderer => some (choiceSet rendererChoices)
  | mute => some (choiceSet (muteChoices.map toString))
  | keymap => some "KEYMAP"
  | help | debug | version => none

/-- Whether an option takes a value. -/
def takesValue (o : OptionName) : Bool :=
  o.valueName?.isSome

/-- What the help text says of an option. -/
def description : OptionName → String
  | help => "show this help message and exit"
  | clockSpeed => "CPU speed in instructions/second (default 400)"
  | pixelSize =>
    "set the host pixels per CHIP-8 pixel in PyGame mode (default 8), "
      ++ "and horizontal scale in Curses mode (default 2)"
  | renderer =>
    "set the rendering, input, and audio systems "
      ++ "(pygame by default if available, otherwise curses)"
  | mute => "mute the buzzer. 0 = unmuted (default for PyGame), 1 = muted (default for Curses)"
  | keymap =>
    "redefine the 16 keyscan codes (PyGame) or character numbers (Curses). "
      ++ "Separate each decimal with a comma"
  | debug =>
    "print the registers and instruction before every step. Slows CPU execution"
  | version => "show program's version number and exit"

/-- Every spelling with the option it names, in the order of the help text. -/
def flags : List (String × OptionName) :=
  all.flatMap fun o => [(o.short, o), (o.long, o)]

/-- The option of an exact spelling. -/
def ofFlag? (flag : String) : Option OptionName :=
  flags.lookup flag

/-- Both names, as a message gives them. -/
def bothNames (o : OptionName) : String :=
  o.short ++ "/" ++ o.long

/-- Every option is listed. -/
theorem mem_all (o : OptionName) : o ∈ all := by
  cases o <;> decide

end OptionName

/-- How the one argument that is no option is called. -/
def romName : String := "ROMFILE"

/-- What the help text says of it. -/
def romDescription : String := "raw CHIP-8 binary to execute (normally ending in .ch8)"

end ChipEight.CommandLine
