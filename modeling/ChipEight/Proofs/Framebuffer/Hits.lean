import Mathlib.Data.Finset.Card
import Mathlib.Data.Finset.Prod
import Mathlib.Tactic.IntervalCases
import ChipEight.Proofs.Framebuffer.Flips

/-!
# Proofs/Framebuffer/Hits — how often a draw hits each pixel

A set bit of a sprite hits the pixel that it falls on, once both coordinates are wrapped.  On a display
narrower than a sprite, or lower than it, several bits hit one pixel.

* `mem_spots`, `nodup_spots` — the spots of a sprite are its set bits, each once;
* `hits_le_one` — a sprite that fits on the display hits no pixel twice;
* `Shaped.place_eq_iff` — spots fall on one pixel if their wrapped coordinates agree;
* `Shaped.count_placesOf` — a place comes as often as its pixel is hit;
* `Shaped.nodup_placesOf` — …and none comes twice, if the sprite fits on the display;
* `Shaped.drawSprite_hits` — **a draw is the parity of its hits**, and collides as they tell.
-/

namespace ChipEight.Framebuffer

/-! ## The spots of a sprite -/

/-- The spots of a sprite are its set bits. -/
theorem mem_spots {sprite : List UInt8} {col row : Nat} :
    (col, row) ∈ spots sprite ↔
      col < 8 ∧ ∃ b, sprite[row]? = some b ∧ b.toNat.testBit (7 - col) = true := by
  simp only [spots, List.mem_flatMap, List.mem_map, List.mem_filter, List.mem_range, Prod.exists,
    List.mk_mem_zipIdx_iff_getElem?, Prod.mk.injEq]
  constructor
  · rintro ⟨b, row, hb, col, ⟨hcol, hbit⟩, rfl, rfl⟩
    exact ⟨hcol, b, hb, hbit⟩
  · rintro ⟨hcol, b, hb, hbit⟩
    exact ⟨b, row, hb, col, ⟨hcol, hbit⟩, rfl, rfl⟩

/-- No spot comes twice. -/
theorem nodup_spots (sprite : List UInt8) : (spots sprite).Nodup := by
  rw [spots, List.nodup_flatMap]
  constructor
  · rintro ⟨b, row⟩ -
    refine List.Nodup.map (fun col col' h => (Prod.mk.inj h).1) ?_
    exact List.nodup_range.filter _
  · have hrows : (sprite.zipIdx.map Prod.snd).Nodup := by
      rw [List.zipIdx_map_snd]
      exact List.nodup_range'
    refine (List.pairwise_map.1 hrows).imp fun {r r'} hne => ?_
    simp only [Function.onFun, List.Disjoint, List.mem_map]
    rintro spot ⟨col, -, rfl⟩ ⟨col', -, hspot⟩
    exact hne (Prod.mk.inj hspot).2.symm

/-- The bit of a row in a column is set.  A row may be any number: its low eight bits count, and the
highest of them stands in column 0. -/
def SetBit (rows : List Int) (col row : Nat) : Prop :=
  rows.getD row 0 / 2 ^ (7 - col) % 2 = 1

instance (rows : List Int) (col row : Nat) : Decidable (SetBit rows col row) :=
  inferInstanceAs (Decidable (_ = _))

/-- The low byte of a number has the number's low bits. -/
theorem testBit_ofInt (n : Int) {k : Nat} (hk : k < 8) :
    (UInt8.ofInt n).toNat.testBit k = true ↔ n / 2 ^ k % 2 = 1 := by
  have hbyte : ((UInt8.ofInt n).toNat : Int) = n % 256 := by
    rw [UInt8.ofInt, UInt8.toNat_ofNat']
    omega
  rw [Nat.testBit_eq_decide_div_mod_eq, decide_eq_true_eq]
  interval_cases k <;> simp <;> omega

/-- The spots of rows given as numbers are their set bits. -/
theorem mem_spots_map {rows : List Int} {col row : Nat} :
    (col, row) ∈ spots (rows.map UInt8.ofInt) ↔
      col < 8 ∧ row < rows.length ∧ SetBit rows col row := by
  rw [mem_spots]
  refine and_congr_right fun hcol => ?_
  by_cases hrow : row < rows.length
  · simp only [SetBit, hrow, List.getElem?_map, List.getElem?_eq_getElem hrow, Option.map_some,
      Option.some.injEq, exists_eq_left', true_and, List.getD_eq_getElem?_getD, Option.getD_some]
    exact testBit_ofInt _ (by omega)
  · simp [hrow]

/-! ## Pixels in rows and columns -/

/-- **A display with pixels**: at least one wide and one high, and a pixel for every place. -/
structure Shaped (fb : Framebuffer) : Prop where
  width_pos : 0 < fb.width
  height_pos : 0 < fb.height
  size_pixels : (fb.pixels.size : Int) = fb.width * fb.height

/-- The pixel in column `p` of row `q`, as it is stored. -/
def pixel? (fb : Framebuffer) (p q : Nat) : Option Bool :=
  fb.pixels[q * fb.width.toNat + p]?

/-- How many set bits of some rows, with their corner at (`x`, `y`), hit the pixel in column `p` of
row `q`. -/
def hits (fb : Framebuffer) (x y : Int) (rows : List Int) (p q : Nat) : Nat :=
  {spot ∈ Finset.range 8 ×ˢ Finset.range rows.length | SetBit rows spot.1 spot.2 ∧
    (x + spot.1) % fb.width = p ∧ (y + spot.2) % fb.height = q}.card

/-- Row-major indices are told by their row and column. -/
theorem rowMajor_inj {w p p' q q' : Nat} (hp : p < w) (hp' : p' < w) :
    q * w + p = q' * w + p' ↔ p = p' ∧ q = q' := by
  constructor
  · intro h
    have hcol : p = p' := by
      have := congrArg (· % w) h
      simpa [Nat.mod_eq_of_lt hp, Nat.mod_eq_of_lt hp'] using this
    subst hcol
    exact ⟨rfl, Nat.eq_of_mul_eq_mul_right (Nat.zero_lt_of_lt hp) (Nat.add_right_cancel h)⟩
  · rintro ⟨rfl, rfl⟩
    rfl

/-- A row-major index lies below the number of pixels. -/
theorem rowMajor_lt {w h p q : Nat} (hp : p < w) (hq : q < h) : q * w + p < w * h := by
  calc q * w + p < (q + 1) * w := by rw [Nat.succ_mul]; omega
    _ ≤ h * w := Nat.mul_le_mul_right w hq
    _ = w * h := Nat.mul_comm h w

/-- Wrapping tells apart what lies less than a side apart. -/
theorem eq_of_add_emod_eq {side x : Int} {a b : Nat} (ha : a < side) (hb : b < side)
    (h : (x + a) % side = (x + b) % side) : a = b := by
  have hwrapped : (a : Int) % side = b % side := Int.emod_add_cancel_left.1 h
  rw [Int.emod_eq_of_lt (by omega) ha, Int.emod_eq_of_lt (by omega) hb] at hwrapped
  exact Int.ofNat_inj.1 hwrapped

/-- **No pixel is hit twice** on a display at least as wide and high as the sprite. -/
theorem hits_le_one {fb : Framebuffer} (x y : Int) {rows : List Int} (hwide : 8 ≤ fb.width)
    (hhigh : rows.length ≤ fb.height) (p q : Nat) : fb.hits x y rows p q ≤ 1 := by
  rw [hits, Finset.card_le_one]
  rintro ⟨col, row⟩ hspot ⟨col', row'⟩ hspot'
  simp only [Finset.mem_filter, Finset.mem_product, Finset.mem_range] at hspot hspot'
  obtain ⟨⟨hcol, hrow⟩, -, hp, hq⟩ := hspot
  obtain ⟨⟨hcol', hrow'⟩, -, hp', hq'⟩ := hspot'
  have hsamecol : col = col' := eq_of_add_emod_eq (by omega) (by omega) (hp.trans hp'.symm)
  have hsamerow : row = row' := eq_of_add_emod_eq (by omega) (by omega) (hq.trans hq'.symm)
  rw [hsamecol, hsamerow]

namespace Shaped

variable {fb : Framebuffer} (h : fb.Shaped)
include h

theorem size_eq : fb.pixels.size = fb.width.toNat * fb.height.toNat := by
  rw [← Int.toNat_mul h.width_pos.le h.height_pos.le, ← h.size_pixels, Int.toNat_natCast]

/-- Wrapped coordinates name a place. -/
theorem place_eq (x y : Int) :
    fb.place x y = (y % fb.height).toNat * fb.width.toNat + (x % fb.width).toNat := by
  have hwidth := h.width_pos
  have hheight := h.height_pos
  have hcol := Int.emod_nonneg x (Int.ne_of_gt hwidth)
  have hrow := Int.emod_nonneg y (Int.ne_of_gt hheight)
  have hindex : 0 ≤ y % fb.height * fb.width + x % fb.width := by positivity
  rw [place, Int.fmod_eq_emod_of_nonneg _ hwidth.le, Int.fmod_eq_emod_of_nonneg _ hheight.le,
    if_neg (Int.not_lt.2 hindex), Int.toNat_add (by positivity) hcol, Int.toNat_mul hrow hwidth.le]

/-- **Two numbers fall on a pixel if they name its column and row once wrapped.** -/
theorem place_eq_iff (x y : Int) {p q : Nat} (hp : p < fb.width) :
    fb.place x y = q * fb.width.toNat + p ↔ x % fb.width = p ∧ y % fb.height = q := by
  have hcol := Int.emod_nonneg x (Int.ne_of_gt h.width_pos)
  have hcol' := Int.emod_lt_of_pos x h.width_pos
  have hrow := Int.emod_nonneg y (Int.ne_of_gt h.height_pos)
  rw [h.place_eq, rowMajor_inj (by omega) (by omega)]
  omega

/-- Coordinates name one place if they agree once wrapped. -/
theorem place_inj {x x' y y' : Int} :
    fb.place x y = fb.place x' y' ↔ x % fb.width = x' % fb.width ∧ y % fb.height = y' % fb.height := by
  have hcol := Int.emod_nonneg x' (Int.ne_of_gt h.width_pos)
  have hcol' := Int.emod_lt_of_pos x' h.width_pos
  have hrow := Int.emod_nonneg y' (Int.ne_of_gt h.height_pos)
  rw [h.place_eq x' y', h.place_eq_iff x y (by omega), Int.toNat_of_nonneg hcol,
    Int.toNat_of_nonneg hrow]

/-- **Every place lies among the pixels.** -/
theorem place_lt (x y : Int) : fb.place x y < fb.pixels.size := by
  have hwidth := h.width_pos
  have hheight := h.height_pos
  have hcol := Int.emod_lt_of_pos x hwidth
  have hrow := Int.emod_lt_of_pos y hheight
  rw [h.place_eq, h.size_eq]
  exact rowMajor_lt (by omega) (by omega)

/-- Every column of every row has a pixel. -/
theorem exists_pixel? {p q : Nat} (hp : p < fb.width) (hq : q < fb.height) :
    ∃ lit, fb.pixel? p q = some lit := by
  have hplace : fb.place p q = q * fb.width.toNat + p :=
    (h.place_eq_iff p q hp).2 ⟨Int.emod_eq_of_lt (by omega) hp, Int.emod_eq_of_lt (by omega) hq⟩
  have hlt := h.place_lt p q
  rw [hplace] at hlt
  exact ⟨_, Array.getElem?_eq_getElem hlt⟩

/-- Every pixel stands in a column of a row. -/
theorem exists_of_getElem? {i : Nat} {lit : Bool} (hi : fb.pixels[i]? = some lit) :
    ∃ p q : Nat, p < fb.width ∧ q < fb.height ∧ i = q * fb.width.toNat + p := by
  have hwidth := h.width_pos
  have hheight := h.height_pos
  have hlt : i < fb.width.toNat * fb.height.toNat := by
    rw [← h.size_eq]
    exact (Array.getElem?_eq_some_iff.1 hi).1
  have hcol := Nat.mod_lt i (show 0 < fb.width.toNat by omega)
  have hrow := Nat.div_lt_of_lt_mul hlt
  refine ⟨i % fb.width.toNat, i / fb.width.toNat, by omega, by omega, ?_⟩
  rw [Nat.mul_comm, Nat.div_add_mod]

/-- **A set bit hits a pixel.** -/
theorem exists_hits_pos (x y : Int) {rows : List Int} {col row : Nat} (hcol : col < 8)
    (hbit : SetBit rows col row) :
    ∃ p q : Nat, p < fb.width ∧ q < fb.height ∧ 1 ≤ fb.hits x y rows p q := by
  have hp := Int.emod_nonneg (x + col) (Int.ne_of_gt h.width_pos)
  have hp' := Int.emod_lt_of_pos (x + col) h.width_pos
  have hq := Int.emod_nonneg (y + row) (Int.ne_of_gt h.height_pos)
  have hq' := Int.emod_lt_of_pos (y + row) h.height_pos
  -- there are no set bits below the last row
  have hrow : row < rows.length := by
    by_contra hrow
    simp [SetBit, Nat.le_of_not_lt hrow] at hbit
  refine ⟨((x + col) % fb.width).toNat, ((y + row) % fb.height).toNat, by omega, by omega, ?_⟩
  rw [hits, Finset.one_le_card]
  refine ⟨(col, row), Finset.mem_filter.2
    ⟨?_, hbit, (Int.toNat_of_nonneg hp).symm, (Int.toNat_of_nonneg hq).symm⟩⟩
  exact Finset.mem_product.2 ⟨Finset.mem_range.2 hcol, Finset.mem_range.2 hrow⟩

/-! ## What a draw does -/

/-- **A place comes as often as its pixel is hit.** -/
theorem count_placesOf (x y : Int) (rows : List Int) {p q : Nat} (hp : p < fb.width) :
    (fb.placesOf x y (spots (rows.map UInt8.ofInt))).count (q * fb.width.toNat + p) =
      fb.hits x y rows p q := by
  rw [placesOf, List.count_eq_countP, List.countP_map, List.countP_eq_length_filter,
    ← List.toFinset_card_of_nodup ((nodup_spots _).filter _), hits]
  congr 1
  ext ⟨col, row⟩
  simp only [List.mem_toFinset, List.mem_filter, mem_spots_map, Function.comp_apply, beq_iff_eq,
    h.place_eq_iff _ _ hp, Finset.mem_filter, Finset.mem_product, Finset.mem_range]
  tauto

/-- No place comes twice if the sprite fits on the display. -/
theorem nodup_placesOf (x y : Int) {sprite : List UInt8} (hwide : 8 ≤ fb.width)
    (hhigh : sprite.length ≤ fb.height) : (fb.placesOf x y (spots sprite)).Nodup := by
  refine List.Nodup.map_on ?_ (nodup_spots sprite)
  rintro ⟨col, row⟩ hspot ⟨col', row'⟩ hspot' (hplace : fb.place _ _ = fb.place _ _)
  obtain ⟨hcol, b, hb, -⟩ := mem_spots.1 hspot
  obtain ⟨hcol', b', hb', -⟩ := mem_spots.1 hspot'
  have hrow := (List.getElem?_eq_some_iff.1 hb).1
  have hrow' := (List.getElem?_eq_some_iff.1 hb').1
  obtain ⟨hx, hy⟩ := h.place_inj.1 hplace
  have hsamecol : col = col' := eq_of_add_emod_eq (by omega) (by omega) hx
  have hsamerow : row = row' := eq_of_add_emod_eq (by omega) (by omega) hy
  rw [hsamecol, hsamerow]

/-- **A draw changes a pixel if it hits it an odd number of times.** -/
theorem pixel?_flipSpots (x y : Int) (rows : List Int) {p q : Nat} (hp : p < fb.width) :
    (fb.flipSpots x y (spots (rows.map UInt8.ofInt))).1.pixel? p q =
      (fb.pixel? p q).map (· ^^ decide (fb.hits x y rows p q % 2 = 1)) := by
  obtain ⟨hwidth, -, -⟩ := fb.flipSpots_shape x y (spots (rows.map UInt8.ofInt))
  rw [pixel?, hwidth, flipSpots_eq_flipAll, getElem?_flipAll, h.count_placesOf x y rows hp]
  rfl

/-- **A draw switches a lit pixel off** if it hits one that was lit, or some pixel twice. -/
theorem collided_flipSpots_iff (x y : Int) (rows : List Int) :
    (fb.flipSpots x y (spots (rows.map UInt8.ofInt))).2 = true ↔
      ∃ p q : Nat, p < fb.width ∧ q < fb.height ∧
        (1 ≤ fb.hits x y rows p q ∧ fb.pixel? p q = some true ∨ 2 ≤ fb.hits x y rows p q) := by
  rw [flipSpots_eq_flipAll, collided_flipAll_iff, or_iff_right Bool.false_ne_true]
  constructor
  · rintro ⟨i, hi⟩
    obtain ⟨lit, hlit⟩ : ∃ lit, fb.pixels[i]? = some lit := by
      rcases hi with ⟨hlit, -⟩ | ⟨hlit, -⟩ <;> exact ⟨_, hlit⟩
    obtain ⟨p, q, hp, hq, rfl⟩ := h.exists_of_getElem? hlit
    rw [h.count_placesOf x y rows hp] at hi
    refine ⟨p, q, hp, hq, ?_⟩
    rcases hi with ⟨hlit, hhit⟩ | ⟨-, hhits⟩
    · exact .inl ⟨hhit, hlit⟩
    · exact .inr hhits
  · rintro ⟨p, q, hp, hq, hhits⟩
    obtain ⟨lit, hlit⟩ := h.exists_pixel? hp hq
    refine ⟨q * fb.width.toNat + p, ?_⟩
    rw [h.count_placesOf x y rows hp, show fb.pixels[_]? = some lit from hlit]
    rw [hlit] at hhits
    cases lit with
    | true => exact .inl ⟨rfl, by omega⟩
    | false => exact .inr ⟨rfl, by simpa using hhits⟩

/-- A draw keeps the shape. -/
theorem flipSpots (x y : Int) (sp : List (Nat × Nat)) : (fb.flipSpots x y sp).1.Shaped := by
  obtain ⟨hwidth, hheight, hsize⟩ := fb.flipSpots_shape x y sp
  exact ⟨hwidth ▸ h.width_pos, hheight ▸ h.height_pos,
    by rw [hwidth, hheight, hsize, h.size_pixels]⟩

/-- A draw takes place wherever its corner is. -/
theorem drawSprite_eq (x y : Int) (sprite : List UInt8) :
    fb.drawSprite x y sprite = .ok (fb.flipSpots x y (spots sprite)) :=
  drawSprite_of_sides (Int.ne_of_gt h.width_pos) (Int.ne_of_gt h.height_pos)

/-- The corner of a draw counts only once it is wrapped. -/
theorem placesOf_congr {x x' y y' : Int} (hx : x' % fb.width = x % fb.width)
    (hy : y' % fb.height = y % fb.height) (sp : List (Nat × Nat)) :
    fb.placesOf x' y' sp = fb.placesOf x y sp := by
  refine List.map_congr_left fun spot _ => ?_
  change fb.place (x' + spot.1) (y' + spot.2) = fb.place (x + spot.1) (y + spot.2)
  rw [h.place_eq, h.place_eq, Int.add_emod x', Int.add_emod y', hx, hy, ← Int.add_emod,
    ← Int.add_emod]

end Shaped

/-- **A draw is the parity of its hits.**  A pixel changes if it is hit an odd number of times, and the
draw collides if it hits a pixel that was lit, or a pixel twice.  Every index it uses lies among the
pixels, and its corner counts only once it is wrapped. -/
theorem Shaped.drawSprite_hits {fb : Framebuffer} (h : fb.Shaped) (x y : Int) (rows : List Int) :
    ∃ next collided, fb.drawSprite x y (rows.map UInt8.ofInt) = .ok (next, collided) ∧
      (next.width = fb.width ∧ next.height = fb.height ∧ next.pixels.size = fb.pixels.size) ∧
      (∀ p q : Nat, p < fb.width → q < fb.height →
        ∃ lit, fb.pixel? p q = some lit ∧
          next.pixel? p q = some (lit ^^ decide (fb.hits x y rows p q % 2 = 1))) ∧
      (∀ col row : Nat, fb.place (x + col) (y + row) < fb.pixels.size ∧
        (fb.place (x + col) (y + row) : Int) =
          (y + row) % fb.height * fb.width + (x + col) % fb.width) ∧
      (collided = true ↔ ∃ p q : Nat, p < fb.width ∧ q < fb.height ∧
        (1 ≤ fb.hits x y rows p q ∧ fb.pixel? p q = some true ∨ 2 ≤ fb.hits x y rows p q)) ∧
      ∀ x' y', x' % fb.width = x % fb.width → y' % fb.height = y % fb.height →
        fb.drawSprite x' y' (rows.map UInt8.ofInt) = .ok (next, collided) := by
  refine ⟨(fb.flipSpots x y (spots (rows.map UInt8.ofInt))).1,
    (fb.flipSpots x y (spots (rows.map UInt8.ofInt))).2, h.drawSprite_eq x y _,
    fb.flipSpots_shape x y _, fun p q hp hq => ?_, fun col row => ⟨h.place_lt _ _, ?_⟩,
    h.collided_flipSpots_iff x y rows, fun x' y' hx hy => ?_⟩
  · obtain ⟨lit, hlit⟩ := h.exists_pixel? hp hq
    refine ⟨lit, hlit, ?_⟩
    rw [h.pixel?_flipSpots x y rows hp, hlit]
    rfl
  · have hcol := Int.emod_nonneg (x + col) (Int.ne_of_gt h.width_pos)
    have hrow := Int.emod_nonneg (y + row) (Int.ne_of_gt h.height_pos)
    rw [h.place_eq, Int.natCast_add, Int.natCast_mul, Int.toNat_of_nonneg hcol,
      Int.toNat_of_nonneg hrow, Int.toNat_of_nonneg h.width_pos.le]
  · rw [h.drawSprite_eq, flipSpots_eq_flipAll, h.placesOf_congr hx hy, ← flipSpots_eq_flipAll]

/-- On a display of one row of three pixels, four set bits hit the first pixel twice: it stays dark, and
the draw collides. -/
theorem Shaped.drawSprite_hits_narrow :
    (dark 3 1).Shaped ∧ ∃ next, (dark 3 1).drawSprite 0 0 ([0xF0].map UInt8.ofInt) = .ok (next, true) ∧
      next.pixel? 0 0 = some false ∧ next.pixel? 1 0 = some true := by
  have hshaped : (dark 3 1).Shaped := ⟨by decide, by decide, by decide⟩
  obtain ⟨next, collided, hdraw, -, hpixels, -, hcollided, -⟩ :=
    Shaped.drawSprite_hits hshaped 0 0 [0xF0]
  have htwice : (dark 3 1).hits 0 0 [0xF0] 0 0 = 2 ∧ (dark 3 1).hits 0 0 [0xF0] 1 0 = 1 := by
    decide
  obtain ⟨hfirst, hsecond⟩ := htwice
  obtain rfl : collided = true := hcollided.2 ⟨0, 0, by decide, by decide, .inr hfirst.ge⟩
  refine ⟨hshaped, next, hdraw, ?_, ?_⟩
  · obtain ⟨lit, hlit, hnext⟩ := hpixels 0 0 (by decide) (by decide)
    obtain rfl : false = lit := Option.some.inj hlit
    rw [hnext, hfirst]
    rfl
  · obtain ⟨lit, hlit, hnext⟩ := hpixels 1 0 (by decide) (by decide)
    obtain rfl : false = lit := Option.some.inj hlit
    rw [hnext, hsecond]
    rfl

end ChipEight.Framebuffer
