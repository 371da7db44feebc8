import ChipEight.Display.Terminal
import ChipEight.Display.Window

/-!
# Display — where the pixels are shown

The pixels are shown nowhere, in a window, or in a terminal.  A display counts its frames; a window
counts only those it has drawn.

* `Display.start` — a new display, unless its pixel size is wrong;
* `Display.refresh`, `Display.setTitle`, `Display.close` — the calls for a frame, a title and the end.
-/

namespace ChipEight

/-- The kinds of display. -/
inductive DisplayKind where
  | null
  | window
  | terminal
deriving DecidableEq, Repr

/-- A call of a display to the system it draws on. -/
inductive DisplayCall where
  | window (call : WindowCall)
  | terminal (call : TerminalCall)
deriving DecidableEq, Repr

/-- What a display draws on. -/
inductive Surface where
  | none
  | window (w : WindowDisplay)
  | terminal (t : TerminalDisplay)

/-- A display. -/
structure Display where
  scale : Quantity
  /-- The number of frames so far. -/
  frames : Nat
  surface : Surface

namespace Display

/-- The width of a pixel in a terminal, in cells, unless another is asked for. -/
def defaultCells : Quantity := .whole 2

/-- The scale of a kind of display unless another is asked for. -/
def defaultScale : DisplayKind → Quantity
  | .null => .whole 1
  | .window => WindowDisplay.defaultScale
  | .terminal => defaultCells

/-- The number of cells for a pixel; blanks cannot be repeated by halves, nor without end. -/
def cells : Quantity → Except Failure Nat
  | .whole n => cellCount n
  | .real _ => .error .fractionalRepeat

/-- A new display and the calls that open it. -/
def start (kind : DisplayKind) (scale : Option Quantity) :
    Except Failure (Display × List DisplayCall) := do
  let scale := scale.getD (defaultScale kind)
  if scale.isNotPositive then throw .pixelSize
  match kind with
  | .null => return (⟨scale, 0, .none⟩, [])
  | .window =>
    let (w, calls) := WindowDisplay.start scale
    return (⟨scale, 0, .window w⟩, calls.map .window)
  | .terminal =>
    let (t, calls) := TerminalDisplay.start (← cells scale)
    return (⟨scale, 0, .terminal t⟩, calls.map .terminal)

/-- A frame.  A terminal is told the size of its screen, and whether it may be resized to it. -/
def refresh (d : Display) (pixels : Array Bool) (screen : Int × Int) (canResize : Bool) :
    Display × List DisplayCall :=
  match d.surface with
  | .none => ({ d with frames := d.frames + 1 }, [])
  | .window w =>
    let (next, calls, drawn) := w.refresh pixels
    ({ d with surface := .window next, frames := if drawn then d.frames + 1 else d.frames },
      calls.map .window)
  | .terminal t =>
    let (next, calls) := t.refresh pixels screen canResize
    ({ d with surface := .terminal next, frames := d.frames + 1 }, calls.map .terminal)

/-- A title. -/
def setTitle (d : Display) (title : String) : Display × List DisplayCall :=
  match d.surface with
  | .none => (d, [])
  | .window _ => (d, [.window (.setTitle title)])
  | .terminal t =>
    let (next, calls) := t.setTitle title
    ({ d with surface := .terminal next }, calls.map .terminal)

/-- The calls that give a display back. -/
def close (d : Display) : List DisplayCall :=
  match d.surface with
  | .none => []
  | .window _ => [.window .close]
  | .terminal _ => TerminalDisplay.close.map .terminal

/-- Whether a display looks at the size of a screen. -/
def hasScreen (d : Display) : Bool :=
  match d.surface with
  | .terminal _ => true
  | .none | .window _ => false

end Display

end ChipEight
