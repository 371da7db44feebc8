import ChipEight.Display

/-!
# Proofs/Display/Requests — what a display has been asked for

A display is asked to show frames and titles.  What it should show in the end is said by the last frame
and by the latest title that has room.

* `Frame` — a framebuffer of the display's sides;
* `Display.serveAll` — the display after requests, and all the calls it has made for them;
* `lastFrame`, `latestTitle`, `lastScreen` — what the requests come to;
* `Frame.changes` — in how many pixels a frame differs from the one before.
-/

namespace ChipEight

/-- **A framebuffer of the display's sides**, with a pixel for every place. -/
@[ext] structure Frame extends Framebuffer where
  width_eq : width = Framebuffer.displayWidth
  height_eq : height = Framebuffer.displayHeight
  size_eq : pixels.size = Framebuffer.displayWidth * Framebuffer.displayHeight

namespace Frame

/-- The number of pixels. -/
theorem size_pixels (f : Frame) : f.pixels.size = 2048 := f.size_eq

/-- Frames differ only in their pixels. -/
theorem pixels_inj {f f' : Frame} : f.pixels = f'.pixels ↔ f = f' := by
  constructor
  · intro h
    exact Frame.ext (f.width_eq.trans f'.width_eq.symm) (f.height_eq.trans f'.height_eq.symm) h
  · rintro rfl
    rfl

/-- The last frame is told by its pixels. -/
theorem map_pixels_eq_some_iff {last : Option Frame} {f : Frame} :
    last.map (·.pixels) = some f.pixels ↔ last = some f := by
  cases last with
  | none => simp
  | some last => simp [pixels_inj]

/-- The pixels are stored row by row. -/
theorem getElem?_pixels (f : Frame) {x y : Nat} (hx : x < 64) (hy : y < 32) :
    f.pixels[y * 64 + x]? = some (f.lit x y) := by
  have hplace : f.place x y = y * 64 + x := by
    rw [Framebuffer.place, f.width_eq, f.height_eq, Framebuffer.displayWidth,
      Framebuffer.displayHeight, Int.fmod_eq_of_lt (by omega) (by omega),
      Int.fmod_eq_of_lt (by omega) (by omega), if_neg (by omega)]
    omega
  have hsize : y * 64 + x < f.pixels.size := by
    rw [f.size_pixels]
    omega
  rw [Framebuffer.lit, hplace, Array.getD_eq_getD_getElem?, Array.getElem?_eq_getElem hsize]
  rfl

/-- **In how many pixels a frame differs from the one before it**; in all of them if there is none. -/
def changes (f : Frame) : Option Frame → Nat
  | none => 2048
  | some last => (List.range 2048).countP fun i => last.pixels[i]? ≠ f.pixels[i]?

end Frame

/-! ## Requests -/

/-- What a display is asked for. -/
inductive Request where
  /-- A frame, while the screen has a height and width, and can be resized or not. -/
  | frame (f : Frame) (screen : Int × Int) (canResize : Bool)
  | title (text : String)

namespace Request

/-- The frame that is asked for, if it is one. -/
def frame? : Request → Option Frame
  | frame f _ _ => some f
  | title _ => none

/-- The title that is asked for, if it is one. -/
def title? : Request → Option String
  | frame _ _ _ => none
  | title text => some text

/-- The height and width of the screen at a frame, if it is one. -/
def screen? : Request → Option (Int × Int)
  | frame _ screen _ => some screen
  | title _ => none

end Request

/-- The last frame of some requests. -/
def lastFrame (requests : List Request) : Option Frame :=
  (requests.filterMap Request.frame?).getLast?

/-- The latest title of some requests that is shorter than a row. -/
def latestTitle (rowCells : Nat) (requests : List Request) : Option String :=
  ((requests.filterMap Request.title?).filter (·.length < rowCells)).getLast?

/-- The height and width of the screen at the last frame of some requests; (-1, -1), which no screen
has, before the first. -/
def lastScreen (requests : List Request) : Int × Int :=
  (requests.filterMap Request.screen?).getLast?.getD (-1, -1)

@[simp] theorem lastFrame_concat_frame (requests : List Request) (f : Frame) (screen : Int × Int)
    (canResize : Bool) : lastFrame (requests ++ [.frame f screen canResize]) = some f := by
  simp [lastFrame, Request.frame?]

@[simp] theorem lastFrame_concat_title (requests : List Request) (text : String) :
    lastFrame (requests ++ [.title text]) = lastFrame requests := by
  simp [lastFrame, Request.frame?]

@[simp] theorem latestTitle_concat_frame (rowCells : Nat) (requests : List Request) (f : Frame)
    (screen : Int × Int) (canResize : Bool) :
    latestTitle rowCells (requests ++ [.frame f screen canResize]) =
      latestTitle rowCells requests := by
  simp only [latestTitle, List.filterMap_append, List.filterMap_cons, Request.title?,
    List.filterMap_nil, List.append_nil]

@[simp] theorem latestTitle_concat_title (rowCells : Nat) (requests : List Request)
    (text : String) :
    latestTitle rowCells (requests ++ [.title text]) =
      if text.length < rowCells then some text else latestTitle rowCells requests := by
  by_cases h : text.length < rowCells
  · simp [latestTitle, Request.title?, h]
  · simp [latestTitle, Request.title?, h]

@[simp] theorem lastScreen_concat_frame (requests : List Request) (f : Frame) (screen : Int × Int)
    (canResize : Bool) : lastScreen (requests ++ [.frame f screen canResize]) = screen := by
  simp [lastScreen, Request.screen?]

@[simp] theorem lastScreen_concat_title (requests : List Request) (text : String) :
    lastScreen (requests ++ [.title text]) = lastScreen requests := by
  simp [lastScreen, Request.screen?]

/-! ## A display that is asked -/

namespace Display

/-- The display after a request, and the calls it makes for it. -/
def serve (d : Display) : Request → Display × List DisplayCall
  | .frame f screen canResize => d.refresh f.pixels screen canResize
  | .title text => d.setTitle text

/-- The display after some requests, and the calls it has made for them. -/
def serveAll (d : Display) (requests : List Request) : Display × List DisplayCall :=
  requests.foldl (fun made request =>
    ((made.1.serve request).1, made.2 ++ (made.1.serve request).2)) (d, [])

@[simp] theorem serveAll_nil (d : Display) : d.serveAll [] = (d, []) := rfl

theorem serveAll_concat (d : Display) (requests : List Request) (request : Request) :
    d.serveAll (requests ++ [request]) =
      (((d.serveAll requests).1.serve request).1,
        (d.serveAll requests).2 ++ ((d.serveAll requests).1.serve request).2) := by
  rw [serveAll, List.foldl_append]
  rfl

end Display

/-! ## Writes one after the other -/

/-- Every pixel stands beside its place. -/
theorem mem_zipIdx_iff {pixels : Array Bool} {lit : Bool} {i : Nat} :
    (lit, i) ∈ pixels.toList.zipIdx ↔ pixels[i]? = some lit := by
  rw [List.mk_mem_zipIdx_iff_getElem?, Array.getElem?_toList]

/-- What one of several writes establishes and the others keep holds after all of them. -/
theorem foldl_of_mem {σ α : Type} {write : σ → α → σ} {P : σ → Prop} {writes : List α} {a : α}
    (hmem : a ∈ writes) (hsets : ∀ s, P (write s a))
    (hkeeps : ∀ s, P s → ∀ b ∈ writes, P (write s b)) (s : σ) : P (writes.foldl write s) := by
  obtain ⟨earlier, later, rfl⟩ := List.append_of_mem hmem
  rw [List.foldl_append, List.foldl_cons]
  refine List.foldlRecOn later write (hsets _) fun s hs b hb => hkeeps s hs b ?_
  exact List.mem_append_right _ (List.mem_cons_of_mem _ hb)

end ChipEight
