import ChipEight.Proofs.Display.Requests

/-!
# Proofs/Display/Window — a window shows the frame it was handed last

The image of a window is painted over in place, and not sent again for a frame like the one before.
What was sent last is still the image of the last frame.

* `Image.repaint_eq_ofPixels` — painted over, an image is that of the new pixels;
* `WindowDisplay.Tracks` — the window knows the last frame, and has sent it;
* `WindowDisplay.Tracks.refresh` — and so it is after every frame;
* `WindowDisplay.Tracks.calls_refresh` — the calls for a frame that differs from the last.
-/

namespace ChipEight

/-! ## Painting over -/

namespace Image

/-- **A painted pixel has three bytes of its own**, and the others stay. -/
theorem getElem?_paint (image : Image) (i : Nat) (lit : Bool) (j : Nat) :
    (image.paint i lit).bytes[j]? =
      if j / 3 = i ∧ j < image.bytes.size then some (brightness lit) else image.bytes[j]? := by
  rw [paint, Array.getElem?_setIfInBounds, Array.getElem?_setIfInBounds,
    Array.getElem?_setIfInBounds]
  grind

@[simp] theorem size_paint (image : Image) (i : Nat) (lit : Bool) :
    (image.paint i lit).bytes.size = image.bytes.size := by
  simp [paint]

@[simp] theorem size_repaint (image : Image) (pixels : Array Bool) :
    (image.repaint pixels).bytes.size = image.bytes.size :=
  List.foldlRecOn (motive := fun painted : Image => painted.bytes.size = image.bytes.size) _ _ rfl
    fun _ h _ _ => (size_paint ..).trans h

/-- Once its pixel is painted, a byte is as bright as that pixel, and stays so. -/
theorem getElem?_repaint {image : Image} {pixels : Array Bool} {j : Nat} {lit : Bool}
    (hj : j < image.bytes.size) (hlit : pixels[j / 3]? = some lit) :
    (image.repaint pixels).bytes[j]? = some (brightness lit) := by
  refine foldl_of_mem (P := fun painted : Image =>
      j < painted.bytes.size → painted.bytes[j]? = some (brightness lit))
    (mem_zipIdx_iff.2 hlit) (fun painted hpainted => ?_) (fun painted h spot hspot hpainted => ?_)
    image (by rwa [← repaint, size_repaint])
  · rw [size_paint] at hpainted
    rw [getElem?_paint, if_pos ⟨rfl, hpainted⟩]
  · obtain ⟨lit', i⟩ := spot
    rw [size_paint] at hpainted
    rw [getElem?_paint]
    split
    · obtain ⟨rfl, -⟩ := ‹j / 3 = i ∧ _›
      rw [Option.some.inj ((mem_zipIdx_iff.1 hspot).symm.trans hlit)]
    · exact h hpainted

/-- **Painted over, an image is that of the new pixels**, whatever it was before. -/
theorem repaint_eq_ofPixels {image : Image} {pixels : Array Bool}
    (hsize : image.bytes.size = 3 * pixels.size) : image.repaint pixels = ofPixels pixels := by
  have hsizes : (image.repaint pixels).bytes.size = (ofPixels pixels).bytes.size := by
    rw [size_repaint, hsize, ofPixels, Array.size_ofFn]
  suffices hbytes : (image.repaint pixels).bytes = (ofPixels pixels).bytes from
    congrArg Image.mk hbytes
  refine Array.ext hsizes fun j hj hj' => Option.some.inj ?_
  rw [size_repaint] at hj
  have hpixel : j / 3 < pixels.size := by omega
  rw [← Array.getElem?_eq_getElem,
    getElem?_repaint hj (Array.getElem?_eq_getElem hpixel)]
  simp [ofPixels, hpixel]

end Image

/-! ## The window and what it was told -/

/-- The image a call sends, if it sends one. -/
def WindowCall.image? : WindowCall → Option Image
  | .image pixels => some pixels
  | _ => none

/-- The image that was sent last. -/
def lastImage (calls : List WindowCall) : Option Image :=
  (calls.filterMap WindowCall.image?).getLast?

namespace WindowDisplay

/-- **The window knows the last frame, and has sent its image.** -/
structure Tracks (w : WindowDisplay) (calls : List WindowCall) (last : Option Frame) : Prop where
  /-- The frame to compare with is the last one. -/
  shown : w.shown = last.map (·.pixels)
  /-- The image has a place for every pixel. -/
  size_buffer : w.buffer.bytes.size = 3 * 2048
  /-- The image that was sent last is that of the last frame. -/
  image : lastImage calls = last.map (.ofPixels ·.pixels)

theorem Tracks.start (scale : Quantity) :
    (WindowDisplay.start scale).1.Tracks (WindowDisplay.start scale).2 none where
  shown := rfl
  size_buffer := Array.size_replicate
  image := rfl

/-- A window keeps its size. -/
theorem size_refresh (w : WindowDisplay) (pixels : Array Bool) :
    (w.refresh pixels).1.width = w.width ∧ (w.refresh pixels).1.height = w.height := by
  rw [WindowDisplay.refresh]
  split <;> exact ⟨rfl, rfl⟩

namespace Tracks

variable {w : WindowDisplay} {calls : List WindowCall} {last : Option Frame} {f : Frame}

/-- A frame is passed over if it is the last one once more. -/
theorem shown_eq_iff (h : w.Tracks calls last) (f : Frame) :
    w.shown = some f.pixels ↔ last = some f := by
  rw [h.shown, Frame.map_pixels_eq_some_iff]

/-- Painted over, the image is that of the frame. -/
theorem repaint_eq (h : w.Tracks calls last) (f : Frame) :
    w.buffer.repaint f.pixels = .ofPixels f.pixels :=
  Image.repaint_eq_ofPixels (by rw [h.size_buffer, f.size_pixels])

/-- **A frame is sent, unless it is already there.** -/
theorem refresh (h : w.Tracks calls last) (f : Frame) :
    (w.refresh f.pixels).1.Tracks (calls ++ (w.refresh f.pixels).2.1) (some f) := by
  by_cases hsame : last = some f
  · rw [refresh_same ((h.shown_eq_iff f).2 hsame), List.append_nil, ← hsame]
    exact h
  · rw [WindowDisplay.refresh, if_neg (mt (h.shown_eq_iff f).1 hsame)]
    refine ⟨rfl, (Image.size_repaint ..).trans h.size_buffer, ?_⟩
    rw [h.repaint_eq]
    simp [lastImage, WindowCall.image?, List.filterMap_cons]

/-- **A frame that differs from the last** is sent, stretched to the window, copied and flipped. -/
theorem calls_refresh (h : w.Tracks calls last) (hne : last ≠ some f) :
    (w.refresh f.pixels).2.1 =
      [.image (.ofPixels f.pixels), .stretch w.width w.height, .copyToWindow, .flip] := by
  rw [WindowDisplay.refresh, if_neg (mt (h.shown_eq_iff f).1 hne), h.repaint_eq]

/-- For the last frame once more there is nothing to do. -/
theorem calls_refresh_last (h : w.Tracks calls (some f)) : (w.refresh f.pixels).2.1 = [] := by
  rw [refresh_same ((h.shown_eq_iff f).2 rfl)]

/-- The image is flipped to the screen, and the frame counted, just if it differs from the last. -/
theorem drawn_iff (h : w.Tracks calls last) (f : Frame) :
    (.flip ∈ (w.refresh f.pixels).2.1 ↔ last ≠ some f) ∧
      ((w.refresh f.pixels).2.2 = true ↔ last ≠ some f) := by
  by_cases hsame : last = some f
  · rw [refresh_same ((h.shown_eq_iff f).2 hsame)]
    simp [hsame]
  · rw [WindowDisplay.refresh, if_neg (mt (h.shown_eq_iff f).1 hsame)]
    simp [hsame]

/-- A title sends no image. -/
theorem setTitle (h : w.Tracks calls last) (text : String) :
    w.Tracks (calls ++ [.setTitle text]) last where
  shown := h.shown
  size_buffer := h.size_buffer
  image := by
    rw [← h.image]
    simp [lastImage, WindowCall.image?]

end Tracks

end WindowDisplay

end ChipEight
