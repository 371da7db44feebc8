import ChipEight.Display.Image
import ChipEight.Quantity

/-!
# Display/Window — the display as a window

The pixels are sent to the window as one image in their own resolution, which the window stretches to
its size.  The image is kept from frame to frame and repainted.  A frame equal to the one before is
not sent.

* `WindowDisplay.refresh` — the calls for a frame;
* `WindowDisplay.refresh_same` — there are none if nothing changed.
-/

namespace ChipEight

/-- A call to the window system. -/
inductive WindowCall where
  | init
  | close
  | setTitle (title : String)
  | setSize (width height : Quantity)
  /-- The pixels as an image of their own resolution. -/
  | image (pixels : Image)
  | stretch (width height : Quantity)
  | copyToWindow
  | flip
deriving DecidableEq, Repr

/-- A window and the frame it shows. -/
structure WindowDisplay where
  width : Quantity
  height : Quantity
  /-- The image that is sent. -/
  buffer : Image
  /-- The frame that was last sent. -/
  shown : Option (Array Bool)

namespace WindowDisplay

/-- The title of a window before the first report. -/
def firstTitle : String := "CHIP-8 VM"

/-- The pixel size of a window unless another is asked for. -/
def defaultScale : Quantity := .whole 8

/-- A new window, with so many of its own pixels for each pixel of the display. -/
def start (scale : Quantity) : WindowDisplay × List WindowCall :=
  let width := scale.scale Framebuffer.displayWidth
  let height := scale.scale Framebuffer.displayHeight
  let buffer := Image.black (Framebuffer.displayWidth * Framebuffer.displayHeight)
  (⟨width, height, buffer, none⟩, [.init, .setTitle firstTitle, .setSize width height])

/-- A frame: the window, the calls, and whether anything was drawn. -/
def refresh (w : WindowDisplay) (pixels : Array Bool) : WindowDisplay × List WindowCall × Bool :=
  if w.shown = some pixels then (w, [], false)
  else
    let buffer := w.buffer.repaint pixels
    ({ w with buffer, shown := some pixels },
      [.image buffer, .stretch w.width w.height, .copyToWindow, .flip], true)

/-- A frame equal to the one before is not sent. -/
theorem refresh_same {w : WindowDisplay} {pixels : Array Bool} (h : w.shown = some pixels) :
    w.refresh pixels = (w, [], false) := by
  simp [refresh, h]

end WindowDisplay

end ChipEight
