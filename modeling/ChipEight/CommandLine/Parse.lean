import ChipEight.CommandLine.Usage
import ChipEight.Keymap
import ChipEight.Text.Quoted

/-!
# CommandLine/Parse — reading the command line

The arguments are first told apart: options, values, and the mark `--` after which all are values.
Then they are read from left to right.  A long option may be cut short as long as it stays
unambiguous; its value follows an equals sign or is the next argument.  Short options without a value
may be joined, and a short option's value may follow it directly.

Reading ends with the settings asked for, or with a reason to exit.

* `classify` — what an argument is, on its own;
* `readTokens` — the arguments read from left to right;
* `parse` — the settings asked for.
-/

namespace ChipEight.CommandLine

open Text

/-! ## What reading ends with -/

/-- What was said of an option. -/
inductive Argument (α : Type) where
  /-- Nothing: the option was not given. -/
  | absent
  /-- The option was given, but its value was the mark `--`, which stands for no value. -/
  | empty
  | one (a : α)
deriving DecidableEq, Repr

/-- What was said converted. -/
def Argument.map {α β : Type} (f : α → β) : Argument α → Argument β
  | .absent => .absent
  | .empty => .empty
  | .one a => .one (f a)

/-- The settings asked for. -/
structure Options where
  filename : String
  clockSpeed : Argument Int
  pixelSize : Argument Int
  renderer : Argument String
  mute : Argument Int
  keymap : Argument String
  debug : Bool
deriving DecidableEq, Repr

/-- A reason to exit. -/
inductive Exit where
  /-- The help text was asked for. -/
  | help
  /-- The version was asked for. -/
  | version
  /-- The arguments are wrong. -/
  | misuse (problem : String)
deriving DecidableEq, Repr

/-- The status to exit with. -/
def Exit.status : Exit → Nat
  | .help | .version => 0
  | .misuse _ => 2

/-- A wrong argument of an option. -/
def misuseOf (o : OptionName) (problem : String) : Exit :=
  .misuse ("argument " ++ o.bothNames ++ ": " ++ problem)

/-! ## Telling arguments apart -/

/-- An option as an argument names it. -/
structure Candidate where
  /-- The option, if there is one of that name. -/
  option : Option OptionName
  /-- Whether it is named by its long name. -/
  long : Bool
  /-- The value given in the same argument. -/
  value : Option String
deriving DecidableEq, Repr

/-- What stands before and after the first equals sign. -/
def splitEquals? (arg : String) : Option (String × String) :=
  let cs := arg.toList
  match cs.dropWhile (· ≠ '=') with
  | _ :: after => some (String.ofList (cs.takeWhile (· ≠ '=')), String.ofList after)
  | [] => none

/-- Whether a text starts with two dashes. -/
def isLong (arg : String) : Bool := arg.startsWith "--"

/-- The spellings that a long argument may stand for, with the value given after an equals sign. -/
def longCandidates (arg : String) : List (String × Candidate) :=
  let (start, value) := match splitEquals? arg with
    | some (before, after) => (before, some after)
    | none => (arg, none)
  (OptionName.flags.filter fun (flag, _) => flag.startsWith start).map fun (flag, o) =>
    (flag, ⟨some o, true, value⟩)

/-- The spelling that a short argument may stand for, with the value given right after it. -/
def shortCandidates (arg : String) : List (String × Candidate) :=
  let flag := String.ofList (arg.toList.take 2)
  match OptionName.ofFlag? flag with
  | some o => [(flag, ⟨some o, false, some (String.ofList (arg.toList.drop 2))⟩)]
  | none => []

/-- Whether characters are digits and nothing else, and at least one. -/
def allDigits (cs : List Char) : Bool :=
  !cs.isEmpty && cs.all fun c => (digitValue? c).isSome

/-- Whether an argument looks like a negative number: a dash, digits, and perhaps a point with digits
after it.  A line end may follow. -/
def looksNegative (arg : String) : Bool :=
  match arg.toList with
  | '-' :: cs =>
    let cs := if cs.getLast? = some '\n' then cs.dropLast else cs
    allDigits cs ||
      match cs.dropWhile fun c => (digitValue? c).isSome with
      | '.' :: after => allDigits after
      | _ => false
  | _ => false

/-- What an argument is, on its own: `none` for a value. -/
def classify (arg : String) : Except Exit (Option Candidate) :=
  if !arg.startsWith "-" then .ok none
  else
    match OptionName.ofFlag? arg with
    | some o => .ok (some ⟨some o, isLong arg, none⟩)
    | none =>
      if arg = "-" then .ok none
      else
        match (splitEquals? arg).bind fun (before, after) =>
          (OptionName.ofFlag? before).map fun o => (⟨some o, isLong arg, some after⟩ : Candidate) with
        | some candidate => .ok (some candidate)
        | none =>
          match if isLong arg then longCandidates arg else shortCandidates arg with
          | [(_, candidate)] => .ok (some candidate)
          | [] =>
            if looksNegative arg || arg.toList.contains ' ' then .ok none
            else .ok (some ⟨none, isLong arg, none⟩)
          | several =>
            .error (.misuse ("ambiguous option: " ++ arg ++ " could match "
              ++ ", ".intercalate (several.map (·.1))))

/-- An argument in its place. -/
inductive Token where
  /-- The first `--`. -/
  | mark
  | value (arg : String)
  | option (arg : String) (candidate : Candidate)
deriving DecidableEq, Repr

/-- The arguments told apart; all that follow the first `--` are values. -/
def tokens : List String → Except Exit (List Token)
  | [] => .ok []
  | arg :: rest =>
    if arg = "--" then .ok (.mark :: rest.map .value)
    else do
      let token := match ← classify arg with
        | some candidate => Token.option arg candidate
        | none => .value arg
      return token :: (← tokens rest)

/-! ## Values -/

/-- What has been read. -/
structure Progress where
  filename : Option String
  /-- The settings so far; the file name is not one of them. -/
  options : Options
  /-- The arguments that nothing could be done with, the latest first. -/
  leftOver : List String
deriving DecidableEq, Repr

/-- Nothing read: no option was given, and the keymap is the usual one. -/
def Progress.start : Progress :=
  ⟨none, ⟨"", .absent, .absent, .absent, .absent, .one Keymap.usual, false⟩, []⟩

/-- The integer an option's value stands for. -/
def intValue (o : OptionName) (value : String) : Except Exit Int :=
  match readInteger? value with
  | some n => .ok n
  | none => .error (misuseOf o ("invalid int value: " ++ quoted value))

/-- The problem of a value that is not among the choices. -/
def notAChoice (o : OptionName) (shown : String) (choices : List String) : Exit :=
  misuseOf o ("invalid choice: " ++ shown ++ " (choose from " ++ ", ".intercalate choices ++ ")")

/-- A value converted, unless it is the mark `--`. -/
def unlessMark {α : Type} (value : String) (convert : String → Except Exit α) :
    Except Exit (Argument α) :=
  if value = "--" then .ok .empty else (convert value).map .one

/-- One of the displays. -/
def rendererValue (value : String) : Except Exit String :=
  if OptionName.rendererChoices.contains value then .ok value
  else .error (notAChoice .renderer (quoted value) (OptionName.rendererChoices.map quoted))

/-- Zero or one. -/
def muteValue (value : String) : Except Exit Int := do
  let n ← intValue .mute value
  if OptionName.muteChoices.contains n then return n
  else throw (notAChoice .mute (toString n) (OptionName.muteChoices.map toString))

/-- The settings after an option with its value; an option without one has none. -/
def set (s : Options) (o : OptionName) (value : String) : Except Exit Options :=
  match o with
  | .help => .error .help
  | .version => .error .version
  | .debug => .ok { s with debug := true }
  | .clockSpeed => do return { s with clockSpeed := ← unlessMark value (intValue .clockSpeed) }
  | .pixelSize => do return { s with pixelSize := ← unlessMark value (intValue .pixelSize) }
  | .renderer => do return { s with renderer := ← unlessMark value rendererValue }
  | .mute => do return { s with mute := ← unlessMark value muteValue }
  | .keymap => do return { s with keymap := ← unlessMark value .ok }

/-! ## Options -/

/-- The problem of a value given to an option that takes none. -/
def ignoredValue (o : OptionName) (value : List Char) : Exit :=
  misuseOf o ("ignored explicit argument " ++ quoted (String.ofList value))

/-- The options of one argument, in order: those joined to a short option `o`, and the value that is
left over for the last one. -/
def joined (o : OptionName) : List Char → Except Exit (List (OptionName × Option String))
  | [] => .ok [(o, none)]
  | c :: rest =>
    if o.takesValue then .ok [(o, some (String.ofList (c :: rest)))]
    else
      match OptionName.ofFlag? (String.ofList ['-', c]) with
      | some next => do return (o, none) :: (← joined next rest)
      | none => .error (ignoredValue o (c :: rest))

/-- The options that an argument gives, in order, the last one perhaps with a value. -/
def optionsOf (o : OptionName) (candidate : Candidate) :
    Except Exit (List (OptionName × Option String)) :=
  match candidate.value with
  | none => .ok [(o, none)]
  | some value =>
    if o.takesValue then .ok [(o, some value)]
    else if candidate.long || value = "" then .error (ignoredValue o value.toList)
    else joined o value.toList

/-- Whether the last of some options still lacks its value. -/
def lacksValue (given : List (OptionName × Option String)) : Bool :=
  match given.getLast? with
  | some (o, none) => o.takesValue
  | _ => false

/-- The settings after several options, the last of which has its value from elsewhere if need be. -/
def setAll (s : Options) (given : List (OptionName × Option String)) (next : String) :
    Except Exit Options :=
  given.foldlM (fun s (o, value) => set s o (value.getD next)) s

/-! ## Reading from left to right -/

/-- The problem of an option whose value is missing. -/
def missingValue (given : List (OptionName × Option String)) : Exit :=
  match given.getLast? with
  | some (o, _) => misuseOf o "expected one argument"
  | none => .misuse ""

/-- An argument that nothing can be done with. -/
def Progress.leave (p : Progress) (arg : String) : Progress :=
  { p with leftOver := arg :: p.leftOver }

/-- The arguments read from left to right.  The first value is the file name; a mark before or after
it belongs to it.  Every further value is left over, and so is an option that does not exist. -/
def readTokens (p : Progress) : List Token → Except Exit Progress
  | [] => .ok p
  | .mark :: .value arg :: rest =>
    match p.filename with
    | none => readTokens { p with filename := some arg } rest
    | some _ => readTokens ((p.leave "--").leave arg) rest
  | .mark :: rest => readTokens (p.leave "--") rest
  | .value arg :: .mark :: rest =>
    match p.filename with
    | none => readTokens { p with filename := some arg } rest
    | some _ => readTokens ((p.leave arg).leave "--") rest
  | .value arg :: rest =>
    match p.filename with
    | none => readTokens { p with filename := some arg } rest
    | some _ => readTokens (p.leave arg) rest
  | .option arg candidate :: rest =>
    match candidate.option with
    | none => readTokens (p.leave arg) rest
    | some o => do
      let given ← optionsOf o candidate
      if lacksValue given then
        match rest with
        | .value next :: rest =>
          let options ← setAll p.options given next
          readTokens { p with options } rest
        | _ => throw (missingValue given)
      else
        let options ← setAll p.options given ""
        readTokens { p with options } rest

/-- **The settings asked for.** -/
def parse (args : List String) : Except Exit Options := do
  let p ← readTokens .start (← tokens args)
  match p.filename with
  | none => throw (.misuse ("the following arguments are required: " ++ romName))
  | some filename =>
    if p.leftOver.isEmpty then return { p.options with filename }
    else throw (.misuse ("unrecognized arguments: " ++ " ".intercalate p.leftOver.reverse))

end ChipEight.CommandLine
