import ChipEight.Framebuffer

/-!
# Display/Terminal — the display in a terminal

Each pixel is a run of blanks on a pad, reversed if the pixel is lit.  The line above the pixels holds
the title.  Only the pixels that changed since the last frame are written, and the pad is copied to
the screen only if something was written or the screen changed its size.

* `TerminalDisplay.pixelWrites` — the writes for a frame;
* `TerminalDisplay.refresh`, `setTitle` — the calls for a frame and for a title.
-/

namespace ChipEight

/-- A call to the terminal system. -/
inductive TerminalCall where
  | openScreen
  | closeScreen
  | showCursor (on : Bool)
  | echo (on : Bool)
  | immediate (on : Bool)
  | newPad (height width : Nat)
  | clearScreen
  | resize (height width : Int)
  | refreshScreen
  /-- A text written on the pad from a place on. -/
  | write (y x : Nat) (text : String) (reversed : Bool)
  /-- The pad copied to the screen up to this row and column. -/
  | refreshPad (bottom right : Int)
deriving DecidableEq, Repr

/-- The pixels on a terminal and what has been done to show them. -/
structure TerminalDisplay where
  /-- How many cells a pixel is wide. -/
  cellsPerPixel : Nat
  /-- The frame that was last written. -/
  shown : Option (Array Bool)
  /-- The height and width of the screen when it was last looked at; (-1, -1) at first. -/
  screen : Int × Int
  /-- Whether something was written that is not on the screen yet. -/
  stale : Bool
deriving DecidableEq, Repr

namespace TerminalDisplay

/-- The number of cells a row of pixels takes. -/
def rowCells (t : TerminalDisplay) : Nat :=
  Framebuffer.displayWidth * t.cellsPerPixel

/-- A terminal with an empty pad: a line for the title, the lines of pixels and one more, and one cell
beyond the last pixel. -/
def start (cellsPerPixel : Nat) : TerminalDisplay × List TerminalCall :=
  let t : TerminalDisplay := ⟨cellsPerPixel, none, (-1, -1), true⟩
  (t, [.openScreen, .showCursor false, .echo false, .immediate true,
    .newPad (Framebuffer.displayHeight + 2) (t.rowCells + 1)])

/-! ## Frames -/

/-- Whether a pixel is to be written. -/
def differs (shown : Option (Array Bool)) (i : Nat) (pixel : Bool) : Bool :=
  match shown with
  | none => true
  | some last => last[i]? != some pixel

/-- The write that shows one pixel. -/
def pixelWrite (t : TerminalDisplay) (i : Nat) (pixel : Bool) : TerminalCall :=
  .write (i / Framebuffer.displayWidth + 1) (i % Framebuffer.displayWidth * t.cellsPerPixel)
    ("".pushn ' ' t.cellsPerPixel) pixel

/-- The writes for a frame: one for each pixel that differs from the last frame, in their order. -/
def pixelWrites (t : TerminalDisplay) (pixels : Array Bool) : List TerminalCall :=
  pixels.toList.zipIdx.filterMap fun (pixel, i) =>
    if differs t.shown i pixel then some (t.pixelWrite i pixel) else none

/-- The frame written, where it differs from the last one. -/
def writeFrame (t : TerminalDisplay) (pixels : Array Bool) : TerminalDisplay × List TerminalCall :=
  if t.shown = some pixels then (t, [])
  else ({ t with shown := some pixels, stale := true }, t.pixelWrites pixels)

/-- The screen looked at: if its size has changed it is cleared and drawn anew. -/
def fitScreen (t : TerminalDisplay) (screen : Int × Int) (canResize : Bool) :
    TerminalDisplay × List TerminalCall :=
  if t.screen = screen then (t, [])
  else
    ({ t with screen, stale := true },
      .clearScreen :: (if canResize then [.resize screen.1 screen.2] else []) ++ [.refreshScreen])

/-- The pad copied to the screen, if something is not on it yet. -/
def flush (t : TerminalDisplay) : TerminalDisplay × List TerminalCall :=
  if t.stale then ({ t with stale := false }, [.refreshPad (t.screen.1 - 1) (t.screen.2 - 1)])
  else (t, [])

/-- **A frame**: the pixels, then the size of the screen, then the copy to the screen. -/
def refresh (t : TerminalDisplay) (pixels : Array Bool) (screen : Int × Int) (canResize : Bool) :
    TerminalDisplay × List TerminalCall :=
  let (written, writes) := t.writeFrame pixels
  let (fitted, fits) := written.fitScreen screen canResize
  let (flushed, copies) := fitted.flush
  (flushed, writes ++ fits ++ copies)

/-! ## The title -/

/-- A title, filled with blanks to the width of a row of pixels; one that does not leave room for a
blank is not shown. -/
def setTitle (t : TerminalDisplay) (title : String) : TerminalDisplay × List TerminalCall :=
  if title.length < t.rowCells then
    ({ t with stale := true },
      [.write 0 0 (title ++ "".pushn ' ' (t.rowCells - title.length)) true])
  else (t, [])

/-- The terminal given back. -/
def close : List TerminalCall :=
  [.immediate false, .echo true, .showCursor true, .closeScreen]

end TerminalDisplay

end ChipEight
