import ChipEight.Failure

/-!
# Framebuffer — the pixels of the display

Pixels are lit or dark, stored row by row.  A sprite is a list of bytes, one per row, the highest bit
leftmost; drawing it flips the pixel under each set bit.  Coordinates wrap around both sides.  The
draw reports a collision if it switched off a pixel that was lit.

* `spots` — the set bits of a sprite as offsets from its corner;
* `drawSprite` — a draw is one flip per spot, in order;
* `flipSpots_shape` — a draw keeps the shape.
-/

namespace ChipEight

/-- Lit and dark pixels, row by row. -/
structure Framebuffer where
  width : Int
  height : Int
  pixels : Array Bool
deriving DecidableEq, Repr

namespace Framebuffer

/-! ## Shape -/

/-- The width and height of the CHIP-8 display. -/
def displayWidth : Nat := 64

@[inherit_doc displayWidth] def displayHeight : Nat := 32

/-- A dark framebuffer of given sides. -/
def dark (width height : Int) : Framebuffer :=
  ⟨width, height, Array.replicate (width * height).toNat false⟩

/-- A dark framebuffer of sides that may be asked for wrongly. -/
def ofSize (width height : Int) : Except Failure Framebuffer :=
  (cellCount (width * height)).map fun _ => dark width height

/-- The framebuffer of the CHIP-8 display. -/
def display : Framebuffer := dark displayWidth displayHeight

/-- All pixels dark. -/
def clear (fb : Framebuffer) : Framebuffer := dark fb.width fb.height

/-- The place of a pixel among all pixels.  The remainders take the sign of the sides, and a place
below zero counts from the end. -/
def place (fb : Framebuffer) (x y : Int) : Nat :=
  let n := Int.fmod y fb.height * fb.width + Int.fmod x fb.width
  (if n < 0 then n + fb.pixels.size else n).toNat

/-- Whether the pixel at wrapped coordinates is lit. -/
def lit (fb : Framebuffer) (x y : Int) : Bool :=
  fb.pixels.getD (fb.place x y) false

/-- Whether the pixel at wrapped coordinates is lit; a side of length zero has none. -/
def getPixel (fb : Framebuffer) (x y : Int) : Except Failure Bool :=
  if fb.width = 0 ∨ fb.height = 0 then .error .emptySide else .ok (fb.lit x y)

/-- The rows of pixels, top first. -/
def rows (fb : Framebuffer) : List (List Bool) :=
  (List.range fb.height.toNat).map fun y =>
    (fb.pixels.extract (y * fb.width.toNat) ((y + 1) * fb.width.toNat)).toList

/-! ## Drawing -/

/-- The set bits of a sprite as (column, row) offsets from its corner, row by row. -/
def spots (sprite : List UInt8) : List (Nat × Nat) :=
  sprite.zipIdx.flatMap fun (b, row) =>
    ((List.range 8).filter fun col => b.toNat.testBit (7 - col)).map fun col => (col, row)

/-- Flips one pixel, and notes whether it was lit. -/
def flip (s : Framebuffer × Bool) (x y : Int) : Framebuffer × Bool :=
  let i := s.1.place x y
  let was := s.1.pixels.getD i false
  ({ s.1 with pixels := s.1.pixels.modify i (!·) }, s.2 || was)

/-- Flips the pixel under each spot, the corner at (`x`, `y`); true if one of them was lit when its
turn came. -/
def flipSpots (fb : Framebuffer) (x y : Int) (sp : List (Nat × Nat)) : Framebuffer × Bool :=
  sp.foldl (fun s (col, row) => flip s (x + col) (y + row)) (fb, false)

/-- Draws a sprite with its corner at (`x`, `y`); the result says whether a lit pixel was switched
off.  A row has no place on a height of zero, and a set bit none on a width of zero. -/
def drawSprite (fb : Framebuffer) (x y : Int) (sprite : List UInt8) :
    Except Failure (Framebuffer × Bool) :=
  if (fb.height = 0 ∧ sprite ≠ []) ∨ (fb.width = 0 ∧ spots sprite ≠ []) then .error .emptySide
  else .ok (fb.flipSpots x y (spots sprite))

/-- A draw on a framebuffer with both sides flips the spots of its sprite. -/
theorem drawSprite_of_sides {fb : Framebuffer} {x y : Int} {sprite : List UInt8}
    (hwidth : fb.width ≠ 0) (hheight : fb.height ≠ 0) :
    fb.drawSprite x y sprite = .ok (fb.flipSpots x y (spots sprite)) := by
  rw [drawSprite, if_neg]
  rintro (⟨h, -⟩ | ⟨h, -⟩)
  · exact hheight h
  · exact hwidth h

/-! ## What drawing keeps -/

/-- A dark framebuffer has a pixel for every place. -/
@[simp] theorem size_dark (width height : Int) :
    (dark width height).pixels.size = (width * height).toNat :=
  Array.size_replicate

@[simp] theorem flip_width (s : Framebuffer × Bool) (x y : Int) : (flip s x y).1.width = s.1.width :=
  rfl

@[simp] theorem flip_height (s : Framebuffer × Bool) (x y : Int) :
    (flip s x y).1.height = s.1.height :=
  rfl

@[simp] theorem flip_size (s : Framebuffer × Bool) (x y : Int) :
    (flip s x y).1.pixels.size = s.1.pixels.size := by
  simp [flip]

/-- Flipping spots keeps the sides and the number of pixels. -/
theorem flipSpots_shape (fb : Framebuffer) (x y : Int) (sp : List (Nat × Nat)) :
    (fb.flipSpots x y sp).1.width = fb.width ∧ (fb.flipSpots x y sp).1.height = fb.height
      ∧ (fb.flipSpots x y sp).1.pixels.size = fb.pixels.size := by
  suffices h : ∀ s : Framebuffer × Bool,
      let r := sp.foldl (fun s (col, row) => flip s (x + (col : Nat)) (y + (row : Nat))) s
      r.1.width = s.1.width ∧ r.1.height = s.1.height ∧ r.1.pixels.size = s.1.pixels.size from
    h (fb, false)
  induction sp with
  | nil => exact fun s => ⟨rfl, rfl, rfl⟩
  | cons spot rest ih =>
    intro s
    have := ih (flip s (x + spot.1) (y + spot.2))
    simpa using this

end Framebuffer

end ChipEight
