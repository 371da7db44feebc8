import ChipEight.Framebuffer

/-!
# Display/Image — pixels as colours

An image has three bytes for each pixel, for red, green and blue.  A lit pixel is white and a dark one
black.  An image is repainted in place, pixel by pixel.

* `Image.ofPixels` — the image of pixels, drawn at once;
* `Image.repaint` — an image with pixels painted over it.
-/

namespace ChipEight

/-- Three bytes for each pixel, row by row. -/
structure Image where
  bytes : Array UInt8
deriving DecidableEq, Repr

namespace Image

/-- How bright each colour of a pixel is. -/
def brightness (lit : Bool) : UInt8 := if lit then 0xFF else 0x00

/-- An image of so many dark pixels. -/
def black (pixels : Nat) : Image := ⟨Array.replicate (3 * pixels) (brightness false)⟩

/-- The image of pixels, drawn at once. -/
def ofPixels (pixels : Array Bool) : Image :=
  ⟨Array.ofFn fun j : Fin (3 * pixels.size) => brightness (pixels.getD (j / 3) false)⟩

/-- An image with one pixel painted. -/
def paint (image : Image) (i : Nat) (lit : Bool) : Image :=
  ⟨((image.bytes.setIfInBounds (3 * i) (brightness lit)).setIfInBounds (3 * i + 1)
    (brightness lit)).setIfInBounds (3 * i + 2) (brightness lit)⟩

/-- An image with pixels painted over it, one after the other. -/
def repaint (image : Image) (pixels : Array Bool) : Image :=
  pixels.toList.zipIdx.foldl (fun image (lit, i) => image.paint i lit) image

/-- Whether a pixel is white. -/
def isWhite (image : Image) (i : Nat) : Bool :=
  [3 * i, 3 * i + 1, 3 * i + 2].all fun j => image.bytes[j]? = some 0xFF

/-- The pixels of an image, lit where they are white. -/
def toList (image : Image) : List Bool :=
  (List.range (image.bytes.size / 3)).map image.isWhite

end Image

end ChipEight
