import ChipEight.Display.Pad
import ChipEight.Proofs.Display.Requests

/-!
# Proofs/Display/Terminal — a pad that is only written where a frame differs

A terminal writes the pixels that differ from the last frame, and copies its pad to the screen only if
it has to.  What the pad shows is the whole frame all the same, under the latest title, and neither a
write nor a new size of the screen waits to be copied once a frame has been shown.

* `TerminalDisplay.Tracks` — the pad shows the last frame and the latest title;
* `Tracks.setTitle`, `Tracks.refresh` — **and so it does after every request**;
* `countP_refresh` — a frame writes as many pixels as it changes;
* `calls_refresh` — **the writes come first, then what a new size asks for, and then the copy**;
* `Settled` — everything that touches the pad or the screen has been followed by a copy.
-/

namespace ChipEight

theorem toList_pushn (n : Nat) : ("".pushn ' ' n).toList = List.replicate n ' ' := by
  rw [String.pushn_eq_repeat_push]
  induction n with
  | zero => rfl
  | succ n ih => rw [Nat.repeat, String.toList_push, ih, List.replicate_succ']

namespace TerminalCall

/-- Whether a call writes on the pad. -/
def isWrite : TerminalCall → Bool
  | .write .. => true
  | _ => false

/-- Whether the pad is to be copied to the screen after a call: a write is not on the screen yet, and
a screen that is cleared or gets a new size does not show the pad any more. -/
def awaitsCopy : TerminalCall → Bool
  | .write .. => true
  | .clearScreen => true
  | .resize .. => true
  | .refreshScreen => true
  | _ => false

/-- Whether a call copies the pad to the screen. -/
def isCopy : TerminalCall → Bool
  | .refreshPad .. => true
  | _ => false

end TerminalCall

/-- The pad after some calls. -/
def padAfter (calls : List TerminalCall) : Pad := calls.foldl Pad.apply .none

theorem padAfter_append (calls new : List TerminalCall) :
    padAfter (calls ++ new) = new.foldl Pad.apply (padAfter calls) :=
  List.foldl_append

/-- **Every write, and every call for a new size of the screen, is followed by a copy** of the pad to
the screen. -/
def Settled (calls : List TerminalCall) : Prop :=
  ∀ earlier call later, calls = earlier ++ call :: later → call.awaitsCopy = true →
    ∃ copy ∈ later, copy.isCopy = true

/-- A copy settles everything. -/
theorem settled_concat (calls : List TerminalCall) (bottom right : Int) :
    Settled (calls ++ [.refreshPad bottom right]) := by
  intro earlier call later hcalls hawaits
  rcases later.eq_nil_or_concat with rfl | ⟨later, last, rfl⟩
  · obtain ⟨-, hcall⟩ := List.append_inj' hcalls rfl
    obtain rfl := (List.cons.inj hcall).1
    nomatch hawaits
  · rw [List.concat_eq_append, ← List.cons_append, ← List.append_assoc] at hcalls
    obtain ⟨-, hlast⟩ := List.append_inj' hcalls rfl
    obtain rfl := (List.cons.inj hlast).1
    exact ⟨.refreshPad bottom right, by simp, rfl⟩

/-- The cell of a column under a title that is filled up with blanks. -/
def titleCell (title : Option String) (column : Nat) : Cell :=
  match title with
  | none => .untouched
  | some text => .written (text.toList.getD column ' ') true

namespace TerminalDisplay

/-- **The pad shows the last frame and the latest title**, and is on the screen unless it is known not
to be. -/
structure Tracks (t : TerminalDisplay) (calls : List TerminalCall) (last : Option Frame)
    (title : Option String) : Prop where
  /-- The frame to compare with is the last one. -/
  shown : t.shown = last.map (·.pixels)
  /-- The pad has all the cells of the title and the pixels. -/
  isSome_cell : ∀ y < 33, ∀ column < t.rowCells, ((padAfter calls).cell? y column).isSome = true
  /-- Every cell below the title is that of a pixel. -/
  pixels : ∀ f, last = some f → ∀ y < 32, ∀ column < t.rowCells,
    (padAfter calls).cell? (y + 1) column =
      some (.written ' ' (f.lit (column / t.cellsPerPixel : Nat) y))
  /-- The row above is that of the title. -/
  title : ∀ column < t.rowCells, (padAfter calls).cell? 0 column = some (titleCell title column)
  /-- A pad that is not known to be stale is on the screen. -/
  settled : t.stale = false → Settled calls

theorem Tracks.start (cellsPerPixel : Nat) :
    (TerminalDisplay.start cellsPerPixel).1.Tracks (TerminalDisplay.start cellsPerPixel).2 none
      none := by
  have hcell (y : Nat) (hy : y < 33) (column : Nat) (hcolumn : column < 64 * cellsPerPixel) :
      (padAfter (TerminalDisplay.start cellsPerPixel).2).cell? y column = some .untouched :=
    Pad.cell?_blank (Nat.lt_succ_of_lt hy) (Nat.lt_succ_of_lt hcolumn)
  refine ⟨rfl, fun y hy column hcolumn => ?_, ?_, hcell 0 (by decide), ?_⟩
  · rw [hcell y hy column hcolumn]
    rfl
  · rintro f ⟨⟩
  · rintro ⟨⟩

/-! ## Writing pixels -/

/-- The pad with a pixel written, if it differs from the last frame. -/
def writePixel (t : TerminalDisplay) (pad : Pad) (spot : Bool × Nat) : Pad :=
  if differs t.shown spot.2 spot.1 then pad.apply (t.pixelWrite spot.2 spot.1) else pad

theorem padAfter_pixelWrites (t : TerminalDisplay) (calls : List TerminalCall)
    (pixels : Array Bool) :
    padAfter (calls ++ t.pixelWrites pixels) =
      pixels.toList.zipIdx.foldl t.writePixel (padAfter calls) := by
  rw [padAfter_append, pixelWrites, List.foldl_filterMap]
  congr 1
  funext pad spot
  rw [writePixel]
  split <;> simp_all

/-- A column of the row belongs to one of its pixels. -/
theorem column_div_lt {t : TerminalDisplay} {column : Nat} (hcolumn : column < t.rowCells) :
    column / t.cellsPerPixel < 64 :=
  Nat.div_lt_of_lt_mul (by rwa [Nat.mul_comm])

/-- **A pixel is written on its own cells**, and on no others of the rows of pixels. -/
theorem cell?_pixelWrite (t : TerminalDisplay) (pad : Pad) (i : Nat) (lit : Bool) {y column : Nat}
    (hcolumn : column < t.rowCells) :
    (pad.apply (t.pixelWrite i lit)).cell? (y + 1) column =
      if i = y * 64 + column / t.cellsPerPixel ∧ (pad.cell? (y + 1) column).isSome = true then
        some (.written ' ' lit)
      else pad.cell? (y + 1) column := by
  have hdiv := column_div_lt hcolumn
  rw [rowCells, Framebuffer.displayWidth] at hcolumn
  have hpos : 0 < t.cellsPerPixel := by
    rcases Nat.eq_zero_or_pos t.cellsPerPixel with hzero | hpos
    · rw [hzero] at hcolumn
      exact absurd hcolumn (Nat.not_lt_zero _)
    · exact hpos
  have hplace : i = y * 64 + column / t.cellsPerPixel ↔
      y + 1 = i / 64 + 1 ∧ column / t.cellsPerPixel = i % 64 := by
    generalize column / t.cellsPerPixel = x at hdiv
    omega
  have hcells : column / t.cellsPerPixel = i % 64 ↔
      i % 64 * t.cellsPerPixel ≤ column ∧ column < i % 64 * t.cellsPerPixel + t.cellsPerPixel := by
    rw [Nat.div_eq_iff hpos]
    omega
  have hlength : ("".pushn ' ' t.cellsPerPixel).length = t.cellsPerPixel := by
    rw [String.length_pushn, String.length_empty, Nat.zero_add]
  rw [pixelWrite, Pad.apply, Pad.cell?_write, hlength, toList_pushn]
  refine ite_congr (propext ?_) (fun hcovered => ?_) fun _ => rfl
  · rw [hplace, hcells, and_assoc, and_assoc]
    rfl
  · obtain ⟨hi, -⟩ := hcovered
    obtain ⟨-, hle, hlt⟩ := (hplace.trans (and_congr_right' hcells)).1 hi
    rw [List.getElem?_replicate, if_pos (by exact (Nat.sub_lt_iff_lt_add' hle).2 hlt)]
    rfl

/-- No pixel is written on the row of the title. -/
theorem cell?_zero_pixelWrite (t : TerminalDisplay) (pad : Pad) (i : Nat) (lit : Bool)
    (column : Nat) : (pad.apply (t.pixelWrite i lit)).cell? 0 column = pad.cell? 0 column := by
  rw [pixelWrite, Pad.apply, Pad.cell?_write, if_neg]
  rintro ⟨hrow, -⟩
  nomatch hrow

theorem isSome_cell?_writePixel (t : TerminalDisplay) (pad : Pad) (spot : Bool × Nat)
    (y column : Nat) :
    ((t.writePixel pad spot).cell? y column).isSome = (pad.cell? y column).isSome := by
  rw [writePixel]
  split
  · exact Pad.isSome_cell?_write ..
  · rfl

theorem isSome_cell?_pixelWrites {t : TerminalDisplay} {calls : List TerminalCall}
    (pixels : Array Bool) {y column : Nat}
    (hcell : ((padAfter calls).cell? y column).isSome = true) :
    ((padAfter (calls ++ t.pixelWrites pixels)).cell? y column).isSome = true := by
  rw [padAfter_pixelWrites]
  exact List.foldlRecOn (motive := fun pad : Pad => (pad.cell? y column).isSome = true) _ _ hcell
    fun pad h spot _ => (isSome_cell?_writePixel t pad spot y column).trans h

/-- The pixels leave the row of the title alone. -/
theorem cell?_zero_pixelWrites (t : TerminalDisplay) (calls : List TerminalCall)
    (pixels : Array Bool) (column : Nat) :
    (padAfter (calls ++ t.pixelWrites pixels)).cell? 0 column =
      (padAfter calls).cell? 0 column := by
  rw [padAfter_pixelWrites]
  refine List.foldlRecOn
    (motive := fun pad : Pad => pad.cell? 0 column = (padAfter calls).cell? 0 column) _ _ rfl
    fun pad h spot _ => ?_
  rw [writePixel]
  split
  · rwa [cell?_zero_pixelWrite]
  · exact h

/-- **A pixel that differs is written, and every other is on the pad already.** -/
theorem cell?_pixelWrites {t : TerminalDisplay} {calls : List TerminalCall} {pixels : Array Bool}
    {y column : Nat} {lit : Bool} (hcolumn : column < t.rowCells)
    (hcell : ((padAfter calls).cell? (y + 1) column).isSome = true)
    (hlit : pixels[y * 64 + column / t.cellsPerPixel]? = some lit)
    (hsame : differs t.shown (y * 64 + column / t.cellsPerPixel) lit = false →
      (padAfter calls).cell? (y + 1) column = some (.written ' ' lit)) :
    (padAfter (calls ++ t.pixelWrites pixels)).cell? (y + 1) column =
      some (.written ' ' lit) := by
  -- a write reaches a cell only if the pad has it, and every write leaves the pad its cells
  let P (pad : Pad) : Prop := (pad.cell? (y + 1) column).isSome = true →
    pad.cell? (y + 1) column = some (.written ' ' lit)
  have hkeeps (pad : Pad) (h : P pad) :
      ∀ spot ∈ pixels.toList.zipIdx, P (t.writePixel pad spot) := by
    rintro ⟨lit', i⟩ hspot hsome
    rw [isSome_cell?_writePixel] at hsome
    rw [writePixel]
    split
    · rw [cell?_pixelWrite t pad i lit' hcolumn]
      split
      -- the only pixel of this place is the one that is to be there
      · obtain ⟨rfl, -⟩ := ‹i = _ ∧ _›
        rw [Option.some.inj ((mem_zipIdx_iff.1 hspot).symm.trans hlit)]
      · exact h hsome
    · exact h hsome
  have hpad : P (padAfter (calls ++ t.pixelWrites pixels)) := by
    rw [padAfter_pixelWrites]
    cases hdiffers : differs t.shown (y * 64 + column / t.cellsPerPixel) lit with
    | false => exact List.foldlRecOn _ _ (fun _ => hsame hdiffers) hkeeps
    | true =>
      refine foldl_of_mem (mem_zipIdx_iff.2 hlit) (fun pad hsome => ?_) hkeeps _
      rw [isSome_cell?_writePixel] at hsome
      rw [writePixel, if_pos hdiffers, cell?_pixelWrite t pad _ lit hcolumn, if_pos ⟨rfl, hsome⟩]
  exact hpad (isSome_cell?_pixelWrites pixels hcell)

/-- A title is written from the start of its row, with blanks up to the end. -/
theorem cell?_titleWrite {pad : Pad} {rowCells column : Nat} {text : String}
    (hroom : text.length < rowCells) (hcolumn : column < rowCells)
    (hcell : (pad.cell? 0 column).isSome = true) :
    (pad.apply (.write 0 0 (text ++ "".pushn ' ' (rowCells - text.length)) true)).cell? 0 column =
      some (titleCell (some text) column) := by
  have hlength : (text ++ "".pushn ' ' (rowCells - text.length)).length = rowCells := by
    rw [String.length_append, String.length_pushn, String.length_empty]
    omega
  rw [Pad.apply, Pad.cell?_write, hlength, if_pos ⟨rfl, Nat.zero_le _, by omega, hcell⟩,
    String.toList_append, toList_pushn, Nat.sub_zero, titleCell, List.getElem?_append]
  split
  · have hcovered : column < text.toList.length := ‹_›
    simp [hcovered]
  · have hbeyond : text.toList[column]? = none := List.getElem?_eq_none (Nat.le_of_not_lt ‹_›)
    have hblank : column - text.toList.length < rowCells - text.length := by
      rw [String.length_toList]
      omega
    rw [List.getElem?_replicate, if_pos hblank, List.getD_eq_getElem?_getD, hbeyond]
    rfl

/-! ## Requests -/

namespace Tracks

variable {t : TerminalDisplay} {calls : List TerminalCall} {last : Option Frame}
  {title : Option String}

/-- What is known of a pad is known after calls that leave it alone. -/
theorem of_pad (h : t.Tracks calls last title) {t' : TerminalDisplay} {calls' : List TerminalCall}
    (hcells : t'.cellsPerPixel = t.cellsPerPixel) (hshown : t'.shown = t.shown)
    (hpad : padAfter calls' = padAfter calls) (hsettled : t'.stale = false → Settled calls') :
    t'.Tracks calls' last title := by
  have hrow : t'.rowCells = t.rowCells := by rw [rowCells, hcells, rowCells]
  refine ⟨hshown.trans h.shown, ?_, ?_, ?_, hsettled⟩
  · rw [hrow, hpad]
    exact h.isSome_cell
  · rw [hrow, hpad, hcells]
    exact h.pixels
  · rw [hrow, hpad]
    exact h.title

/-- A pixel that does not differ is on the pad. -/
theorem cell_of_differs_eq_false (h : t.Tracks calls last title) {y column : Nat} {lit : Bool}
    (hy : y < 32) (hcolumn : column < t.rowCells)
    (hsame : differs t.shown (y * 64 + column / t.cellsPerPixel) lit = false) :
    (padAfter calls).cell? (y + 1) column = some (.written ' ' lit) := by
  have hx := column_div_lt hcolumn
  rw [h.shown] at hsame
  cases hlast : last with
  | none =>
    rw [hlast] at hsame
    nomatch hsame
  | some f =>
    rw [hlast, Option.map_some, differs, f.getElem?_pixels hx hy] at hsame
    rw [h.pixels f hlast y hy column hcolumn]
    simpa using hsame

theorem writeFrame (h : t.Tracks calls last title) (f : Frame) :
    (t.writeFrame f.pixels).1.Tracks (calls ++ (t.writeFrame f.pixels).2) (some f) title := by
  rw [TerminalDisplay.writeFrame]
  split
  · have hsame : t.shown = some f.pixels := ‹_›
    rw [h.shown, Frame.map_pixels_eq_some_iff] at hsame
    rw [List.append_nil, ← hsame]
    exact h
  refine ⟨rfl, fun y hy column hcolumn => ?_, ?_, fun column hcolumn => ?_, ?_⟩
  · exact isSome_cell?_pixelWrites _ (h.isSome_cell y hy column hcolumn)
  · rintro _ ⟨⟩ y hy column hcolumn
    exact cell?_pixelWrites hcolumn (h.isSome_cell _ (by omega) column hcolumn)
      (f.getElem?_pixels (column_div_lt hcolumn) hy) (h.cell_of_differs_eq_false hy hcolumn)
  · rw [cell?_zero_pixelWrites]
    exact h.title column hcolumn
  · rintro ⟨⟩

theorem fitScreen (h : t.Tracks calls last title) (screen : Int × Int) (canResize : Bool) :
    (t.fitScreen screen canResize).1.Tracks (calls ++ (t.fitScreen screen canResize).2) last
      title := by
  rw [TerminalDisplay.fitScreen]
  split
  · rwa [List.append_nil]
  · refine h.of_pad rfl rfl ?_ fun hstale => nomatch hstale
    rw [padAfter_append]
    cases canResize <;> rfl

theorem flush (h : t.Tracks calls last title) :
    t.flush.1.Tracks (calls ++ t.flush.2) last title := by
  rw [TerminalDisplay.flush]
  split
  · refine h.of_pad rfl rfl ?_ fun _ => settled_concat calls _ _
    rw [padAfter_append]
    rfl
  · rwa [List.append_nil]

/-- **A frame is shown as a whole.** -/
theorem refresh (h : t.Tracks calls last title) (f : Frame) (screen : Int × Int)
    (canResize : Bool) :
    (t.refresh f.pixels screen canResize).1.Tracks
      (calls ++ (t.refresh f.pixels screen canResize).2) (some f) title := by
  have hflushed := ((h.writeFrame f).fitScreen screen canResize).flush
  rw [TerminalDisplay.refresh, ← List.append_assoc, ← List.append_assoc]
  exact hflushed

/-- **A title that has room is shown**, and any other passed over. -/
theorem setTitle (h : t.Tracks calls last title) (text : String) :
    (t.setTitle text).1.Tracks (calls ++ (t.setTitle text).2) last
      (if text.length < t.rowCells then some text else title) := by
  rw [TerminalDisplay.setTitle]
  split
  · have hroom : text.length < t.rowCells := ‹_›
    refine ⟨h.shown, fun y hy column hcolumn => ?_, fun f hlast y hy column hcolumn => ?_,
      fun column hcolumn => ?_, ?_⟩
    · rw [padAfter_append]
      exact (Pad.isSome_cell?_write ..).trans (h.isSome_cell y hy column hcolumn)
    · rw [padAfter_append, ← h.pixels f hlast y hy column hcolumn]
      exact (Pad.cell?_write ..).trans (if_neg fun hrow => nomatch hrow.1)
    · rw [padAfter_append]
      exact cell?_titleWrite hroom hcolumn (h.isSome_cell 0 (by decide) column hcolumn)
    · rintro ⟨⟩
  · rwa [List.append_nil]

end Tracks

/-- Once a frame is shown, nothing waits to be copied. -/
theorem stale_refresh (t : TerminalDisplay) (pixels : Array Bool) (screen : Int × Int)
    (canResize : Bool) : (t.refresh pixels screen canResize).1.stale = false := by
  have hflush (t : TerminalDisplay) : t.flush.1.stale = false := by
    rw [flush]
    split
    · rfl
    · simpa using ‹¬t.stale = true›
  exact hflush _

theorem cellsPerPixel_refresh (t : TerminalDisplay) (pixels : Array Bool) (screen : Int × Int)
    (canResize : Bool) :
    (t.refresh pixels screen canResize).1.cellsPerPixel = t.cellsPerPixel := by
  have hwrite : (t.writeFrame pixels).1.cellsPerPixel = t.cellsPerPixel := by
    rw [writeFrame]
    split <;> rfl
  have hfit (t : TerminalDisplay) :
      (t.fitScreen screen canResize).1.cellsPerPixel = t.cellsPerPixel := by
    rw [fitScreen]
    split <;> rfl
  have hflush (t : TerminalDisplay) : t.flush.1.cellsPerPixel = t.cellsPerPixel := by
    rw [flush]
    split <;> rfl
  exact (hflush _).trans ((hfit _).trans hwrite)

theorem cellsPerPixel_setTitle (t : TerminalDisplay) (text : String) :
    (t.setTitle text).1.cellsPerPixel = t.cellsPerPixel := by
  rw [setTitle]
  split <;> rfl

/-! ## The calls for a frame -/

/-- What a screen of a size asks for after one of another size. -/
def sizeCalls (last screen : Int × Int) (canResize : Bool) : List TerminalCall :=
  if last = screen then []
  else .clearScreen :: (if canResize then [.resize screen.1 screen.2] else []) ++ [.refreshScreen]

theorem calls_fitScreen (t : TerminalDisplay) (screen : Int × Int) (canResize : Bool) :
    (t.fitScreen screen canResize).2 = sizeCalls t.screen screen canResize := by
  rw [fitScreen, sizeCalls]
  split <;> rfl

theorem screen_writeFrame (t : TerminalDisplay) (pixels : Array Bool) :
    (t.writeFrame pixels).1.screen = t.screen := by
  rw [writeFrame]
  split <;> rfl

theorem screen_fitScreen (t : TerminalDisplay) (screen : Int × Int) (canResize : Bool) :
    (t.fitScreen screen canResize).1.screen = screen := by
  rw [fitScreen]
  split
  · assumption
  · rfl

/-- The screen is remembered as it was when the frame was shown. -/
theorem screen_refresh (t : TerminalDisplay) (pixels : Array Bool) (screen : Int × Int)
    (canResize : Bool) : (t.refresh pixels screen canResize).1.screen = screen := by
  have hflush (t : TerminalDisplay) : t.flush.1.screen = t.screen := by
    rw [flush]
    split <;> rfl
  exact (hflush _).trans (screen_fitScreen ..)

theorem screen_setTitle (t : TerminalDisplay) (text : String) :
    (t.setTitle text).1.screen = t.screen := by
  rw [setTitle]
  split <;> rfl

/-- A frame that leaves nothing to be copied is the last one. -/
theorem shown_eq_of_stale_writeFrame {t : TerminalDisplay} {pixels : Array Bool}
    (h : (t.writeFrame pixels).1.stale = false) : t.shown = some pixels := by
  rw [writeFrame] at h
  split at h
  · assumption
  · cases h

/-- A size that leaves nothing to be copied is that of the screen before, and nothing was to be copied
before it was looked at. -/
theorem of_stale_fitScreen {t : TerminalDisplay} {screen : Int × Int} {canResize : Bool}
    (h : (t.fitScreen screen canResize).1.stale = false) : t.stale = false ∧ t.screen = screen := by
  rw [fitScreen] at h
  split at h
  · exact ⟨h, ‹_›⟩
  · cases h

/-- **The calls for a frame**: the writes, then what the size of the screen asks for, and then a copy
to the whole screen, which is only left out if neither the frame nor the size is a new one. -/
theorem calls_refresh (t : TerminalDisplay) (pixels : Array Bool) (screen : Int × Int)
    (canResize : Bool) :
    ∃ copies, (t.refresh pixels screen canResize).2 =
        (t.writeFrame pixels).2 ++ sizeCalls t.screen screen canResize ++ copies ∧
      (copies = [.refreshPad (screen.1 - 1) (screen.2 - 1)] ∨
        copies = [] ∧ t.shown = some pixels ∧ t.screen = screen) := by
  have hfitted := screen_fitScreen (t.writeFrame pixels).1 screen canResize
  refine ⟨((t.writeFrame pixels).1.fitScreen screen canResize).1.flush.2, ?_, ?_⟩
  · rw [← screen_writeFrame t pixels, ← calls_fitScreen]
    rfl
  rw [flush]
  split
  · rw [hfitted]
    exact .inl rfl
  · obtain ⟨hwritten, hscreen⟩ := of_stale_fitScreen (eq_false_of_ne_true ‹_›)
    rw [screen_writeFrame] at hscreen
    exact .inr ⟨rfl, shown_eq_of_stale_writeFrame hwritten, hscreen⟩

/-- The pixels of a frame are written and nothing else. -/
theorem isWrite_of_mem_writeFrame {t : TerminalDisplay} {pixels : Array Bool} {call : TerminalCall}
    (hcall : call ∈ (t.writeFrame pixels).2) : call.isWrite = true := by
  rw [writeFrame] at hcall
  split at hcall
  · cases hcall
  · obtain ⟨⟨lit, i⟩, -, hwrite⟩ := List.mem_filterMap.1 hcall
    dsimp only at hwrite
    split at hwrite
    · obtain rfl := Option.some.inj hwrite
      rfl
    · cases hwrite

/-- One pixel is written for every one that differs. -/
theorem countP_pixelWrites (t : TerminalDisplay) (f : Frame) (last : Option Frame)
    (hshown : t.shown = last.map (·.pixels)) :
    (t.pixelWrites f.pixels).countP TerminalCall.isWrite = f.changes last := by
  have hwrites : (t.pixelWrites f.pixels).countP TerminalCall.isWrite =
      f.pixels.toList.zipIdx.countP fun spot => differs t.shown spot.2 spot.1 := by
    rw [pixelWrites, List.countP_filterMap]
    refine List.countP_congr fun spot _ => ?_
    cases hdiffers : differs t.shown spot.2 spot.1 with
    | false => simp [hdiffers]
    | true => simp [hdiffers, pixelWrite, TerminalCall.isWrite]
  have hplaces : f.pixels.toList.zipIdx.map Prod.snd = List.range 2048 := by
    rw [List.zipIdx_map_snd, Array.length_toList, f.size_pixels, List.range_eq_range']
  rw [hwrites, hshown]
  cases last with
  | none =>
    have hall : f.pixels.toList.zipIdx.countP (fun _ => true) = 2048 := by
      rw [List.countP_true, List.length_zipIdx, Array.length_toList, f.size_pixels]
    exact hall
  | some last =>
    rw [Frame.changes, ← hplaces, List.countP_map]
    refine List.countP_congr fun spot hspot => ?_
    obtain ⟨lit, i⟩ := spot
    simp [differs, mem_zipIdx_iff.1 hspot]

/-- **A frame writes as many pixels as it changes.** -/
theorem countP_refresh {t : TerminalDisplay} {calls : List TerminalCall} {last : Option Frame}
    {title : Option String} (h : t.Tracks calls last title) (f : Frame) (screen : Int × Int)
    (canResize : Bool) :
    (t.refresh f.pixels screen canResize).2.countP TerminalCall.isWrite = f.changes last := by
  have hwrites : (t.writeFrame f.pixels).2.countP TerminalCall.isWrite = f.changes last := by
    rw [writeFrame]
    split
    · have hsame : t.shown = some f.pixels := ‹_›
      rw [h.shown, Frame.map_pixels_eq_some_iff] at hsame
      simp [hsame, Frame.changes]
    · exact countP_pixelWrites t f last h.shown
  have hsize : (sizeCalls t.screen screen canResize).countP TerminalCall.isWrite = 0 := by
    rw [sizeCalls]
    split
    · rfl
    · cases canResize <;> rfl
  obtain ⟨copies, hcalls, hcopies⟩ := t.calls_refresh f.pixels screen canResize
  have hcopies : copies.countP TerminalCall.isWrite = 0 := by
    obtain rfl | ⟨rfl, -, -⟩ := hcopies <;> rfl
  calc (t.refresh f.pixels screen canResize).2.countP TerminalCall.isWrite
      = f.changes last + 0 + 0 := by
        rw [hcalls, List.countP_append, List.countP_append, hwrites, hsize, hcopies]
    _ = f.changes last := rfl

end TerminalDisplay

end ChipEight
