import Mathlib.Data.List.Induction
import ChipEight.Proofs.Display.Terminal
import ChipEight.Proofs.Display.Window

/-!
# Proofs/Display/Redraw — drawing the differences is drawing everything

A display draws only what differs from the frame before.  After any frames, titles and sizes of the
screen, what it shows is what it would show if it drew the last frame from scratch.

* `TerminalShows`, `WindowShows` — what a frame, drawn as a whole, looks like;
* `surface_serveAll_terminal`, `surface_serveAll_window` — the display keeps track of its requests;
* `refresh_shows_frame` — **after every frame the display shows it**, and has drawn no more than
  differs.
-/

namespace ChipEight

/-- The calls to the terminal system. -/
def terminalCalls (calls : List DisplayCall) : List TerminalCall :=
  calls.filterMap fun
    | .terminal call => some call
    | .window _ => none

/-- The calls to the window system. -/
def windowCalls (calls : List DisplayCall) : List WindowCall :=
  calls.filterMap fun
    | .window call => some call
    | .terminal _ => none

@[simp] theorem terminalCalls_append (calls new : List DisplayCall) :
    terminalCalls (calls ++ new) = terminalCalls calls ++ terminalCalls new :=
  List.filterMap_append

@[simp] theorem terminalCalls_map (calls : List TerminalCall) :
    terminalCalls (calls.map .terminal) = calls := by
  rw [terminalCalls, List.filterMap_map]
  exact List.filterMap_some

@[simp] theorem windowCalls_append (calls new : List DisplayCall) :
    windowCalls (calls ++ new) = windowCalls calls ++ windowCalls new :=
  List.filterMap_append

@[simp] theorem windowCalls_map (calls : List WindowCall) :
    windowCalls (calls.map .window) = calls := by
  rw [windowCalls, List.filterMap_map]
  exact List.filterMap_some

/-! ## What is to be seen -/

/-- **A terminal that shows a frame** under the latest title, with so many cells for a pixel, on a
screen that may be of another size than before, after `made` calls and the `new` ones for this frame. -/
structure TerminalShows (cells : Nat) (before : List Request) (f : Frame) (screen : Int × Int)
    (canResize : Bool) (made new : List TerminalCall) : Prop where
  /-- The cells of a pixel are blanks, reversed if it is lit. -/
  pixels : ∀ x < 64, ∀ y < 32, ∀ column, x * cells ≤ column → column < (x + 1) * cells →
    (padAfter (made ++ new)).cell? (y + 1) column = some (.written ' ' (f.lit x y))
  /-- The row above has the latest title, filled up with reversed blanks. -/
  title : ∀ column < 64 * cells, (padAfter (made ++ new)).cell? 0 column =
    some (titleCell (latestTitle (64 * cells) before) column)
  /-- Only pixels that differ from the frame before have been written. -/
  writes : new.countP TerminalCall.isWrite = f.changes (lastFrame before)
  /-- No write and no new size waits to be copied to the screen. -/
  settled : Settled (made ++ new)
  /-- The pixels are written first.  Then a screen of another size than at the frame before is cleared
  and refreshed, and then the pad is copied to the whole of it; there is no need to copy only if neither
  the frame nor the size has changed. -/
  calls_eq : ∃ writes copies,
    new = writes ++ TerminalDisplay.sizeCalls (lastScreen before) screen canResize ++ copies ∧
    (∀ call ∈ writes, call.isWrite = true) ∧
    (copies = [.refreshPad (screen.1 - 1) (screen.2 - 1)] ∨
      copies = [] ∧ lastFrame before = some f ∧ lastScreen before = screen)

/-- **A window that shows a frame**, with so many of its own pixels for a pixel on each side, after `made`
calls and the `new` ones for this frame, which leave it with a count of frames. -/
structure WindowShows (scale : Nat) (before : List Request) (f : Frame) (made new : List WindowCall)
    (framesMade frames : Nat) : Prop where
  /-- The image that was sent last is the white and black one of the frame. -/
  image : lastImage (made ++ new) = some (.ofPixels f.pixels)
  /-- It is flipped to the screen just if it differs from the frame before. -/
  flip_iff : .flip ∈ new ↔ lastFrame before ≠ some f
  /-- And then it is counted. -/
  frames_of_ne : lastFrame before ≠ some f → frames = framesMade + 1
  frames_of_eq : lastFrame before = some f → frames = framesMade
  /-- It is sent, stretched to the whole window, copied there and flipped. -/
  calls_of_ne : lastFrame before ≠ some f → new =
    [.image (.ofPixels f.pixels), .stretch (.whole (64 * scale)) (.whole (32 * scale)),
      .copyToWindow, .flip]
  calls_of_eq : lastFrame before = some f → new = []

namespace Display

/-! ## What a display makes of a request -/

section Surface

variable {d : Display} {w : WindowDisplay} {t : TerminalDisplay}

theorem refresh_terminal (h : d.surface = .terminal t) (pixels : Array Bool) (screen : Int × Int)
    (canResize : Bool) :
    d.refresh pixels screen canResize =
      ({ d with surface := .terminal (t.refresh pixels screen canResize).1, frames := d.frames + 1 },
        (t.refresh pixels screen canResize).2.map .terminal) := by
  rw [refresh, h]

theorem setTitle_terminal (h : d.surface = .terminal t) (text : String) :
    d.setTitle text =
      ({ d with surface := .terminal (t.setTitle text).1 },
        (t.setTitle text).2.map .terminal) := by
  rw [setTitle, h]

theorem refresh_window (h : d.surface = .window w) (pixels : Array Bool) (screen : Int × Int)
    (canResize : Bool) :
    d.refresh pixels screen canResize =
      ({ d with
          surface := .window (w.refresh pixels).1
          frames := if (w.refresh pixels).2.2 then d.frames + 1 else d.frames },
        (w.refresh pixels).2.1.map .window) := by
  rw [refresh, h]

theorem setTitle_window (h : d.surface = .window w) (text : String) :
    d.setTitle text = (d, [.window (.setTitle text)]) := by
  rw [setTitle, h]

end Surface

/-! ## Keeping track of the requests -/

/-- A display on a terminal has shown what it was asked for. -/
def TracksTerminal (d : Display) (cells : Nat) (calls : List DisplayCall)
    (requests : List Request) : Prop :=
  ∃ t, d.surface = .terminal t ∧ t.cellsPerPixel = cells ∧ t.screen = lastScreen requests ∧
    t.Tracks (terminalCalls calls) (lastFrame requests) (latestTitle (64 * cells) requests)

/-- A display in a window has shown what it was asked for. -/
def TracksWindow (d : Display) (scale : Nat) (calls : List DisplayCall)
    (requests : List Request) : Prop :=
  ∃ w, d.surface = .window w ∧
    (w.width = .whole (64 * scale) ∧ w.height = .whole (32 * scale)) ∧
    w.Tracks (windowCalls calls) (lastFrame requests)

theorem TracksTerminal.start {n : Nat} {d : Display} {opening : List DisplayCall}
    (h : start .terminal (some (.whole n)) = .ok (d, opening)) :
    d.TracksTerminal n opening [] := by
  rw [Display.start, Option.getD_some] at h
  split at h
  · nomatch h
  rcases hcells : cells (.whole n) with failure | k
  · rw [hcells] at h
    nomatch h
  · rw [hcells] at h
    have hk : k = n := (Int.ofNat.inj (cellCount_eq_ok_iff.1 hcells).1).symm
    obtain ⟨rfl, rfl⟩ := Prod.mk.inj (Except.ok.inj h)
    refine ⟨_, rfl, hk, rfl, ?_⟩
    rw [terminalCalls_map]
    exact .start k

theorem TracksWindow.start {n : Nat} {d : Display} {opening : List DisplayCall}
    (h : start .window (some (.whole n)) = .ok (d, opening)) : d.TracksWindow n opening [] := by
  rw [Display.start, Option.getD_some] at h
  split at h
  · nomatch h
  obtain ⟨rfl, rfl⟩ := Prod.mk.inj (Except.ok.inj h)
  refine ⟨_, rfl, ⟨rfl, rfl⟩, ?_⟩
  rw [windowCalls_map]
  exact .start _

section Serve

variable {d : Display} {calls : List DisplayCall} {requests : List Request}

theorem TracksTerminal.serve {cells : Nat} (h : d.TracksTerminal cells calls requests)
    (request : Request) :
    (d.serve request).1.TracksTerminal cells (calls ++ (d.serve request).2)
      (requests ++ [request]) := by
  obtain ⟨t, hsurface, rfl, hscreen, htracks⟩ := h
  cases request with
  | frame f screen canResize =>
    rw [Display.serve, refresh_terminal hsurface]
    refine ⟨_, rfl, t.cellsPerPixel_refresh .., ?_, ?_⟩
    · rw [lastScreen_concat_frame, t.screen_refresh]
    rw [lastFrame_concat_frame, latestTitle_concat_frame, terminalCalls_append, terminalCalls_map]
    exact htracks.refresh f screen canResize
  | title text =>
    rw [Display.serve, setTitle_terminal hsurface]
    refine ⟨_, rfl, t.cellsPerPixel_setTitle .., ?_, ?_⟩
    · rw [lastScreen_concat_title, t.screen_setTitle, hscreen]
    rw [lastFrame_concat_title, latestTitle_concat_title, terminalCalls_append, terminalCalls_map]
    exact htracks.setTitle text

theorem TracksWindow.serve {scale : Nat} (h : d.TracksWindow scale calls requests)
    (request : Request) :
    (d.serve request).1.TracksWindow scale (calls ++ (d.serve request).2)
      (requests ++ [request]) := by
  obtain ⟨w, hsurface, ⟨hwidth, hheight⟩, htracks⟩ := h
  cases request with
  | frame f screen canResize =>
    rw [Display.serve, refresh_window hsurface]
    obtain ⟨hsame, hsame'⟩ := w.size_refresh f.pixels
    refine ⟨_, rfl, ⟨hsame.trans hwidth, hsame'.trans hheight⟩, ?_⟩
    rw [lastFrame_concat_frame, windowCalls_append, windowCalls_map]
    exact htracks.refresh f
  | title text =>
    rw [Display.serve, setTitle_window hsurface]
    refine ⟨w, hsurface, ⟨hwidth, hheight⟩, ?_⟩
    rw [lastFrame_concat_title, windowCalls_append]
    exact htracks.setTitle text

/-- **A display on a terminal keeps track of all its requests.** -/
theorem TracksTerminal.serveAll {cells : Nat} (h : d.TracksTerminal cells calls [])
    (requests : List Request) :
    (d.serveAll requests).1.TracksTerminal cells (calls ++ (d.serveAll requests).2) requests := by
  induction requests using List.reverseRecOn with
  | nil => rwa [serveAll_nil, List.append_nil]
  | append_singleton requests request ih =>
    rw [serveAll_concat, ← List.append_assoc]
    exact ih.serve request

/-- **A display in a window keeps track of all its requests.** -/
theorem TracksWindow.serveAll {scale : Nat} (h : d.TracksWindow scale calls [])
    (requests : List Request) :
    (d.serveAll requests).1.TracksWindow scale (calls ++ (d.serveAll requests).2) requests := by
  induction requests using List.reverseRecOn with
  | nil => rwa [serveAll_nil, List.append_nil]
  | append_singleton requests request ih =>
    rw [serveAll_concat, ← List.append_assoc]
    exact ih.serve request

end Serve

/-! ## A frame after any requests -/

theorem TracksTerminal.shows {d : Display} {cells : Nat} {calls : List DisplayCall}
    {before : List Request} (h : d.TracksTerminal cells calls before) (f : Frame)
    (screen : Int × Int) (canResize : Bool) :
    TerminalShows cells before f screen canResize (terminalCalls calls)
      (terminalCalls (d.refresh f.pixels screen canResize).2) := by
  obtain ⟨t, hsurface, rfl, hscreen, htracks⟩ := h
  rw [refresh_terminal hsurface, terminalCalls_map]
  have hafter := htracks.refresh f screen canResize
  have hcells := t.cellsPerPixel_refresh f.pixels screen canResize
  have hrow : (t.refresh f.pixels screen canResize).1.rowCells = 64 * t.cellsPerPixel := by
    rw [TerminalDisplay.rowCells, hcells, Framebuffer.displayWidth]
  refine ⟨fun x hx y hy column hle hlt => ?_, fun column hcolumn => ?_, ?_, ?_, ?_⟩
  · have hplace : column / t.cellsPerPixel = x := Nat.div_eq_of_lt_le hle hlt
    have hcolumn : column < 64 * t.cellsPerPixel :=
      Nat.lt_of_lt_of_le hlt (Nat.mul_le_mul_right _ hx)
    rw [hafter.pixels f rfl y hy column (hrow.symm ▸ hcolumn), hcells, hplace]
  · exact hafter.title column (hrow.symm ▸ hcolumn)
  · exact TerminalDisplay.countP_refresh htracks f screen canResize
  · exact hafter.settled (t.stale_refresh ..)
  · obtain ⟨copies, hcalls, hcopies⟩ := t.calls_refresh f.pixels screen canResize
    rw [htracks.shown, Frame.map_pixels_eq_some_iff, hscreen] at hcopies
    rw [hscreen] at hcalls
    exact ⟨_, copies, hcalls, fun _ => TerminalDisplay.isWrite_of_mem_writeFrame, hcopies⟩

theorem TracksWindow.shows {d : Display} {scale : Nat} {calls : List DisplayCall}
    {before : List Request} (h : d.TracksWindow scale calls before) (f : Frame) (screen : Int × Int)
    (canResize : Bool) :
    WindowShows scale before f (windowCalls calls)
      (windowCalls (d.refresh f.pixels screen canResize).2) d.frames
      (d.refresh f.pixels screen canResize).1.frames := by
  obtain ⟨w, hsurface, ⟨hwidth, hheight⟩, htracks⟩ := h
  rw [refresh_window hsurface, windowCalls_map]
  obtain ⟨hflip, hdrawn⟩ := htracks.drawn_iff f
  refine ⟨(htracks.refresh f).image, hflip, fun hne => if_pos (hdrawn.2 hne),
    fun heq => if_neg fun hdraw => hdrawn.1 hdraw heq, fun hne => ?_, fun heq => ?_⟩
  · rw [← hwidth, ← hheight]
    exact htracks.calls_refresh hne
  · rw [heq] at htracks
    exact htracks.calls_refresh_last

/-- **Drawing the differences is drawing everything.**  After any frames, titles and sizes of the
screen, a terminal shows a frame as a whole under the latest title, with as many writes as pixels have
changed and neither a write nor a new size waiting; and a window shows its image, sent just if it
differs. -/
theorem refresh_shows_frame {kind : DisplayKind} {n : Nat} {d : Display}
    {opening : List DisplayCall} (hstart : start kind (some (.whole n)) = .ok (d, opening))
    (before : List Request) (f : Frame) (screen : Int × Int) (canResize : Bool) :
    let made := opening ++ (d.serveAll before).2
    let ready := (d.serveAll before).1
    let next := ready.refresh f.pixels screen canResize
    (kind = .terminal →
        TerminalShows n before f screen canResize (terminalCalls made) (terminalCalls next.2)) ∧
      (kind = .window →
        WindowShows n before f (windowCalls made) (windowCalls next.2) ready.frames
          next.1.frames) := by
  constructor
  · rintro rfl
    exact ((TracksTerminal.start hstart).serveAll before).shows f screen canResize
  · rintro rfl
    exact ((TracksWindow.start hstart).serveAll before).shows f screen canResize

/-- A dark frame. -/
def darkFrame : Frame := ⟨.display, rfl, rfl, Framebuffer.size_dark ..⟩

/-- A frame with one pixel lit, the second in the second row. -/
def dotFrame : Frame :=
  ⟨⟨64, 32, (Array.replicate 2048 false).setIfInBounds 65 true⟩, rfl, rfl, by
    rw [Array.size_setIfInBounds, Array.size_replicate]
    rfl⟩

/-- A dot after a dark frame, on a terminal that gets larger and has no call for that, with two cells
for a pixel. -/
theorem refresh_shows_frame_dot :
    ∃ d opening, start .terminal (some (.whole 2)) = .ok (d, opening) ∧
      let before := [.title "GO", .frame darkFrame (24, 80) true]
      let next := (d.serveAll before).1.refresh dotFrame.pixels (30, 100) false
      let made := terminalCalls (opening ++ (d.serveAll before).2)
      let pad := padAfter (made ++ terminalCalls next.2)
      pad.cell? 2 3 = some (.written ' ' true) ∧ pad.cell? 2 4 = some (.written ' ' false) ∧
        pad.cell? 0 1 = some (.written 'O' true) ∧ pad.cell? 0 2 = some (.written ' ' true) ∧
        ∃ writes, terminalCalls next.2 =
          writes ++ [.clearScreen, .refreshScreen, .refreshPad 29 99] := by
  obtain ⟨d, opening, hstart⟩ :
      ∃ d opening, start .terminal (some (.whole (2 : Nat))) = .ok (d, opening) := ⟨_, _, rfl⟩
  have hshows := (refresh_shows_frame hstart
    [.title "GO", .frame darkFrame (24, 80) true] dotFrame (30, 100) false).1 rfl
  have hlit : dotFrame.lit 1 1 = true := by decide +kernel
  have hdark : dotFrame.lit 2 1 = false := by decide +kernel
  refine ⟨d, opening, hstart, ?_, ?_, ?_, ?_, ?_⟩
  · rw [hshows.pixels 1 (by decide) 1 (by decide) 3 (by decide) (by decide)]
    exact congrArg _ (congrArg _ hlit)
  · rw [hshows.pixels 2 (by decide) 1 (by decide) 4 (by decide) (by decide)]
    exact congrArg _ (congrArg _ hdark)
  · exact hshows.title 1 (by decide)
  · exact hshows.title 2 (by decide)
  · obtain ⟨writes, copies, hcalls, -, hcopies⟩ := hshows.calls_eq
    obtain rfl | ⟨-, -, hscreen⟩ := hcopies
    · exact ⟨writes, hcalls.trans (List.append_assoc ..)⟩
    · exact absurd hscreen (by decide)

end Display

end ChipEight
