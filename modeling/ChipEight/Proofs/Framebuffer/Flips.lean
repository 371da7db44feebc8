import ChipEight.Framebuffer

/-!
# Proofs/Framebuffer/Flips — pixels flipped one after the other

A draw flips the pixels at a list of places, in order, and a place may come more than once.  What
becomes of a pixel, and whether a lit one is switched off on the way, depends only on how often each
place comes.

* `flipSpots_eq_flipAll` — a draw is a list of places that are flipped;
* `getElem?_flipAll` — a pixel changes if its place comes an **odd number** of times;
* `collided_flipAll_iff` — a lit pixel is switched off if a place comes **once on a lit pixel, or twice**;
* `getElem?_flipAll_of_nodup`, `collided_flipAll_iff_of_nodup` — the same if no place comes twice.
-/

namespace ChipEight.Framebuffer

/-! ## Places -/

/-- The pixel at a place flipped, and noted whether it was lit. -/
def flipAt (s : Framebuffer × Bool) (i : Nat) : Framebuffer × Bool :=
  ({ s.1 with pixels := s.1.pixels.modify i (!·) }, s.2 || s.1.pixels.getD i false)

/-- The pixels at some places flipped, one after the other. -/
def flipAll (s : Framebuffer × Bool) (places : List Nat) : Framebuffer × Bool :=
  places.foldl flipAt s

/-- The places of the spots of a sprite with its corner at (`x`, `y`). -/
def placesOf (fb : Framebuffer) (x y : Int) (sp : List (Nat × Nat)) : List Nat :=
  sp.map fun (col, row) => fb.place (x + col) (y + row)

@[simp] theorem flipAll_nil (s : Framebuffer × Bool) : flipAll s [] = s := rfl

@[simp] theorem flipAll_cons (s : Framebuffer × Bool) (i : Nat) (places : List Nat) :
    flipAll s (i :: places) = flipAll (flipAt s i) places := rfl

/-- Places are told by the shape. -/
theorem place_congr {fb fb' : Framebuffer} (hwidth : fb.width = fb'.width)
    (hheight : fb.height = fb'.height) (hsize : fb.pixels.size = fb'.pixels.size) (x y : Int) :
    fb.place x y = fb'.place x y := by
  rw [place, place, hwidth, hheight, hsize]

/-- Flipping keeps the shape. -/
theorem flipAll_shape (s : Framebuffer × Bool) (places : List Nat) :
    (flipAll s places).1.width = s.1.width ∧ (flipAll s places).1.height = s.1.height
      ∧ (flipAll s places).1.pixels.size = s.1.pixels.size := by
  induction places generalizing s with
  | nil => exact ⟨rfl, rfl, rfl⟩
  | cons i places ih =>
    obtain ⟨hwidth, hheight, hsize⟩ := ih (flipAt s i)
    exact ⟨hwidth, hheight, hsize.trans Array.size_modify⟩

/-- **A draw flips the places of its spots.** -/
theorem flipSpots_eq_flipAll (fb : Framebuffer) (x y : Int) (sp : List (Nat × Nat)) :
    fb.flipSpots x y sp = flipAll (fb, false) (fb.placesOf x y sp) := by
  suffices h : ∀ s : Framebuffer × Bool, s.1.width = fb.width → s.1.height = fb.height →
      s.1.pixels.size = fb.pixels.size →
      sp.foldl (fun s (col, row) => flip s (x + (col : Nat)) (y + (row : Nat))) s =
        flipAll s (fb.placesOf x y sp) from
    h (fb, false) rfl rfl rfl
  induction sp with
  | nil => exact fun _ _ _ _ => rfl
  | cons spot sp ih =>
    intro s hwidth hheight hsize
    have hplace := place_congr hwidth hheight hsize (x + spot.1) (y + spot.2)
    have hflip : flip s (x + spot.1) (y + spot.2) =
        flipAt s (fb.place (x + spot.1) (y + spot.2)) := by
      rw [← hplace]
      rfl
    change sp.foldl _ (flip s (x + spot.1) (y + spot.2)) = _
    rw [hflip]
    exact ih _ hwidth hheight (Array.size_modify.trans hsize)

/-! ## What becomes of the pixels -/

theorem getElem?_flipAt (s : Framebuffer × Bool) (i j : Nat) :
    (flipAt s i).1.pixels[j]? =
      if i = j then s.1.pixels[j]?.map (!·) else s.1.pixels[j]? :=
  Array.getElem?_modify

/-- **A pixel changes if its place comes an odd number of times.** -/
theorem getElem?_flipAll (s : Framebuffer × Bool) (places : List Nat) (j : Nat) :
    (flipAll s places).1.pixels[j]? =
      s.1.pixels[j]?.map (· ^^ decide (places.count j % 2 = 1)) := by
  induction places generalizing s with
  | nil => simp
  | cons i places ih =>
    rw [flipAll_cons, ih, getElem?_flipAt, List.count_cons]
    by_cases hij : i = j
    · have hodd : decide ((places.count j + 1) % 2 = 1) = !decide (places.count j % 2 = 1) := by
        rw [← decide_not]
        exact decide_eq_decide.2 (by omega)
      rw [if_pos hij, if_pos (beq_iff_eq.2 hij), hodd, Option.map_map]
      refine congrArg (Option.map · _) (funext fun lit => ?_)
      simp
    · rw [if_neg hij, if_neg (mt beq_iff_eq.1 hij), Nat.add_zero]

/-- **A lit pixel is switched off** if a place comes once on a lit pixel, or twice on a dark one. -/
theorem collided_flipAll_iff (s : Framebuffer × Bool) (places : List Nat) :
    (flipAll s places).2 = true ↔ s.2 = true ∨
      ∃ j, s.1.pixels[j]? = some true ∧ 1 ≤ places.count j ∨
        s.1.pixels[j]? = some false ∧ 2 ≤ places.count j := by
  induction places generalizing s with
  | nil => simp
  | cons i places ih =>
    rw [flipAll_cons, ih]
    by_cases hlit : s.1.pixels[i]? = some true
    · have hflag : (flipAt s i).2 = true := by simp [flipAt, hlit]
      have hcount : 1 ≤ (i :: places).count i := List.count_pos_iff.2 List.mem_cons_self
      exact iff_of_true (.inl hflag) (.inr ⟨i, .inl ⟨hlit, hcount⟩⟩)
    · have hpixel : s.1.pixels[i]? = none ∨ s.1.pixels[i]? = some false := by
        rcases hpixel : s.1.pixels[i]? with _ | lit
        · exact .inl rfl
        · have hdark : lit = false := by simpa [hpixel] using hlit
          exact .inr (congrArg some hdark)
      have hflag : (flipAt s i).2 = s.2 := by
        rcases hpixel with hpixel | hpixel <;> simp [flipAt, hpixel]
      rw [hflag]
      refine or_congr_right (exists_congr fun j => ?_)
      rw [getElem?_flipAt, List.count_cons]
      by_cases hij : i = j
      · -- the first flip lights the pixel, so that the next one switches it off
        subst hij
        rcases hpixel with hpixel | hpixel <;> simp [hpixel]
      · simp [hij]

/-! ## No place twice -/

/-- If no place comes twice, a pixel changes if its place comes at all. -/
theorem getElem?_flipAll_of_nodup (s : Framebuffer × Bool) {places : List Nat} (h : places.Nodup)
    (j : Nat) :
    (flipAll s places).1.pixels[j]? = s.1.pixels[j]?.map (· ^^ decide (j ∈ places)) := by
  have hodd : decide (places.count j % 2 = 1) = decide (j ∈ places) := by
    rw [h.count]
    by_cases hj : j ∈ places <;> simp [hj]
  rw [getElem?_flipAll, hodd]

/-- If no place comes twice, a lit pixel is switched off if one was lit before. -/
theorem collided_flipAll_iff_of_nodup (fb : Framebuffer) {places : List Nat} (h : places.Nodup) :
    (flipAll (fb, false) places).2 = true ↔ ∃ j ∈ places, fb.pixels[j]? = some true := by
  rw [collided_flipAll_iff, or_iff_right Bool.false_ne_true]
  refine exists_congr fun j => ?_
  rw [h.count]
  by_cases hj : j ∈ places <;> simp [hj]

end ChipEight.Framebuffer
