import ChipEight.CommandLine.Option

/-!
# CommandLine/Usage — the usage and the help text

Both texts are laid out for lines of 78 characters.  Words go on a line as long as they fit; what
belongs together is one word.

* `fillLines` — words filled into lines;
* `usage` — the lines that show how to call the program;
* `help` — the usage and what every option does.
-/

namespace ChipEight.CommandLine

/-! ## Filling lines -/

/-- The characters of a line. -/
def lineWidth : Nat := 78

/-- Words filled into lines, after a line that has been begun: `room` is what a line holds. -/
def fillAfter (room : Nat) (line : String) : List String → List String
  | [] => [line]
  | word :: rest =>
    if room < line.length + 1 + word.length then line :: fillAfter room word rest
    else fillAfter room (line ++ " " ++ word) rest

/-- Words filled into lines of at most `room` characters, longer words on a line of their own. -/
def fillLines (room : Nat) : List String → List String
  | [] => []
  | word :: rest => fillAfter room word rest

/-- Blanks. -/
def blanks (n : Nat) : String := "".pushn ' ' n

/-- The words of a text. -/
def words (text : String) : List String :=
  (text.toList.splitOnP (· == ' ')).filterMap fun cs =>
    if cs.isEmpty then none else some (String.ofList cs)

/-! ## Usage -/

/-- The name of the program. -/
def programName : String := "chip8"

/-- What the usage text begins with. -/
def usageHead : String := "usage: " ++ programName ++ " "

/-- An option in the usage text. -/
def usagePart (o : OptionName) : String :=
  match o.valueName? with
  | some value => "[" ++ o.short ++ " " ++ value ++ "]"
  | none => "[" ++ o.short ++ "]"

/-- The lines that show how to call the program. -/
def usageLines : List String :=
  let indent := usageHead.length
  match fillLines (lineWidth - indent) (OptionName.all.map usagePart) with
  | [] => [usageHead ++ romName]
  | first :: rest => (usageHead ++ first) :: (rest ++ [romName]).map (blanks indent ++ ·)

/-- How to call the program. -/
def usage : String := "\n".intercalate usageLines

/-! ## Help -/

/-- The column where descriptions begin. -/
def descriptionColumn : Nat := 24

/-- An option with its value, by both names. -/
def invocation (o : OptionName) : String :=
  match o.valueName? with
  | some value => o.short ++ " " ++ value ++ ", " ++ o.long ++ " " ++ value
  | none => o.short ++ ", " ++ o.long

/-- An entry of the help text: a heading, and a description beside it if the heading leaves two
blanks before the description's column, otherwise below it. -/
def entry (heading description : String) : List String :=
  let head := "  " ++ heading
  match fillLines (lineWidth - descriptionColumn) (words description) with
  | [] => [head]
  | first :: rest =>
    let rest := rest.map (blanks descriptionColumn ++ ·)
    if head.length + 2 ≤ descriptionColumn then
      (head ++ blanks (descriptionColumn - head.length) ++ first) :: rest
    else head :: (blanks descriptionColumn ++ first) :: rest

/-- What the program is. -/
def summary : String := "CHIP-8 VM -- a CHIP-8 interpreter"

/-- The help text. -/
def help : String :=
  "\n".intercalate (usageLines ++ ["", summary, "", "positional arguments:"]
    ++ entry romName romDescription ++ ["", "options:"]
    ++ OptionName.all.flatMap fun o => entry (invocation o) o.description)

/-- The name and version of the program. -/
def version : String := programName ++ " 1.0.0"

end ChipEight.CommandLine
