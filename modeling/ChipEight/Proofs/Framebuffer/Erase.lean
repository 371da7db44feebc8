import Mathlib.Data.List.Perm.Lattice
import ChipEight.Proofs.Framebuffer.Hits

/-!
# Proofs/Framebuffer/Erase — draws in any order, and draws that undo each other

What some draws leave depends only on how often each place comes in all of them together, and of that
only on whether it is odd.  So the order of the draws plays no part, and the same draws once more bring
everything back.

* `flipped_congr`, `flipped_append` — flips by the parity of each place, and flips after flips;
* `Shaped.drawAll_eq` — some draws are one long list of flips;
* `Drawn.collided_once`, `Drawn.collided_again_iff` — what a sprite drawn twice collides with;
* `Shaped.drawAll_perm` — **the algebra of drawing**.
-/

namespace ChipEight.Framebuffer

/-! ## Flips after flips -/

/-- A framebuffer with the pixels at some places flipped. -/
def flipped (fb : Framebuffer) (places : List Nat) : Framebuffer :=
  (flipAll (fb, false) places).1

/-- Framebuffers of one width and height differ in their pixels. -/
theorem ext_pixels {fb fb' : Framebuffer} (hwidth : fb.width = fb'.width)
    (hheight : fb.height = fb'.height) (hpixels : ∀ i : Nat, fb.pixels[i]? = fb'.pixels[i]?) :
    fb = fb' := by
  obtain ⟨width, height, pixels⟩ := fb
  obtain rfl : width = fb'.width := hwidth
  obtain rfl : height = fb'.height := hheight
  obtain rfl : pixels = fb'.pixels := Array.ext_getElem? hpixels
  rfl

theorem getElem?_flipped (fb : Framebuffer) (places : List Nat) (i : Nat) :
    (fb.flipped places).pixels[i]? =
      fb.pixels[i]?.map (· ^^ decide (places.count i % 2 = 1)) :=
  getElem?_flipAll (fb, false) places i

/-- **Flips are told by the parity of each place.** -/
theorem flipped_congr (fb : Framebuffer) {places others : List Nat}
    (h : ∀ i, places.count i % 2 = others.count i % 2) : fb.flipped places = fb.flipped others := by
  obtain ⟨hwidth, hheight, -⟩ := flipAll_shape (fb, false) places
  obtain ⟨hwidth', hheight', -⟩ := flipAll_shape (fb, false) others
  refine ext_pixels (hwidth.trans hwidth'.symm) (hheight.trans hheight'.symm) fun i => ?_
  rw [getElem?_flipped, getElem?_flipped, h i]

/-- Flips after flips are the flips of both. -/
theorem flipped_append (fb : Framebuffer) (places others : List Nat) :
    fb.flipped (places ++ others) = (fb.flipped places).flipped others := by
  obtain ⟨hwidth, hheight, -⟩ := flipAll_shape (fb, false) (places ++ others)
  obtain ⟨hwidth', hheight', -⟩ := flipAll_shape (fb, false) places
  obtain ⟨hwidth'', hheight'', -⟩ := flipAll_shape (fb.flipped places, false) others
  refine ext_pixels (hwidth.trans (hwidth''.trans hwidth').symm)
    (hheight.trans (hheight''.trans hheight').symm) fun i => ?_
  have hparity : decide ((places.count i + others.count i) % 2 = 1) =
      (decide (places.count i % 2 = 1) ^^ decide (others.count i % 2 = 1)) := by
    rw [Bool.eq_iff_iff]
    simp
    omega
  rw [getElem?_flipped, getElem?_flipped, getElem?_flipped, List.count_append, hparity,
    Option.map_map]
  refine congrArg (Option.map · _) (funext fun lit => ?_)
  exact (Bool.xor_assoc ..).symm

@[simp] theorem flipped_nil (fb : Framebuffer) : fb.flipped [] = fb := rfl

/-- **The same flips in any order bring everything back.** -/
theorem flipped_flipped_of_perm (fb : Framebuffer) {places others : List Nat}
    (h : others.Perm places) : (fb.flipped places).flipped others = fb := by
  rw [← flipped_append, ← flipped_nil fb]
  refine flipped_congr _ fun i => ?_
  rw [List.count_append, h.count_eq, List.count_nil]
  omega

/-! ## Draws one after the other -/

/-- A draw that is asked for: the corner, and the rows as numbers. -/
structure Draw where
  x : Int
  y : Int
  rows : List Int
deriving DecidableEq, Repr

/-- A draw carried out. -/
def draw (fb : Framebuffer) (d : Draw) : Except Failure (Framebuffer × Bool) :=
  fb.drawSprite d.x d.y (d.rows.map UInt8.ofInt)

/-- What some draws leave, one after the other. -/
def drawAll (fb : Framebuffer) (draws : List Draw) : Except Failure Framebuffer :=
  draws.foldlM (fun fb d => return (← fb.draw d).1) fb

/-- The places that a draw flips. -/
def Draw.places (fb : Framebuffer) (d : Draw) : List Nat :=
  fb.placesOf d.x d.y (spots (d.rows.map UInt8.ofInt))

/-- Flips leave every draw where it was. -/
theorem Draw.places_flipped (fb : Framebuffer) (flips : List Nat) (d : Draw) :
    d.places (fb.flipped flips) = d.places fb := by
  obtain ⟨hwidth, hheight, hsize⟩ := flipAll_shape (fb, false) flips
  exact List.map_congr_left fun spot _ => place_congr hwidth hheight hsize _ _

variable {fb : Framebuffer}

/-- Flips keep the shape. -/
theorem Shaped.flipped (h : fb.Shaped) (places : List Nat) : (fb.flipped places).Shaped := by
  obtain ⟨hwidth, hheight, hsize⟩ := flipAll_shape (fb, false) places
  exact ⟨hwidth ▸ h.width_pos, hheight ▸ h.height_pos,
    by rw [Framebuffer.flipped, hwidth, hheight, hsize, h.size_pixels]⟩

/-- A draw flips its places. -/
theorem Shaped.draw_eq (h : fb.Shaped) (d : Draw) :
    fb.draw d = .ok (fb.flipped (d.places fb), (flipAll (fb, false) (d.places fb)).2) := by
  rw [draw, h.drawSprite_eq, flipSpots_eq_flipAll]
  rfl

/-- **Some draws are one long list of flips.** -/
theorem Shaped.drawAll_eq (h : fb.Shaped) (draws : List Draw) :
    fb.drawAll draws = .ok (fb.flipped (draws.flatMap (·.places fb))) := by
  induction draws generalizing fb with
  | nil => rfl
  | cons d draws ih =>
    have hfirst : fb.drawAll (d :: draws) = (fb.flipped (d.places fb)).drawAll draws := by
      rw [drawAll, List.foldlM_cons, h.draw_eq]
      rfl
    rw [hfirst, ih (h.flipped _), List.flatMap_cons, flipped_append]
    simp only [Draw.places_flipped]

/-- **Draws in another order leave the same.** -/
theorem Shaped.drawAll_of_perm (h : fb.Shaped) {draws others : List Draw}
    (hperm : others.Perm draws) : fb.drawAll others = fb.drawAll draws := by
  rw [h.drawAll_eq, h.drawAll_eq]
  refine congrArg Except.ok (flipped_congr fb fun i => ?_)
  rw [(hperm.flatMap_right _).count_eq]

/-- **The same draws once more, in any order, bring everything back.** -/
theorem Shaped.drawAll_again (h : fb.Shaped) {draws others : List Draw} {next : Framebuffer}
    (hperm : others.Perm draws) (hnext : fb.drawAll draws = .ok next) :
    next.drawAll others = .ok fb := by
  rw [h.drawAll_eq] at hnext
  obtain rfl := Except.ok.inj hnext
  rw [(h.flipped _).drawAll_eq]
  simp only [Draw.places_flipped]
  rw [flipped_flipped_of_perm fb (hperm.flatMap_right _)]

/-! ## A sprite drawn twice -/

/-- **What a draw leaves and reports**, told by its hits. -/
structure Drawn (fb : Framebuffer) (d : Draw) (next : Framebuffer) (collided : Bool) : Prop where
  shaped : next.Shaped
  width : next.width = fb.width
  height : next.height = fb.height
  pixel? {p q : Nat} (hp : p < fb.width) : next.pixel? p q =
    (fb.pixel? p q).map (· ^^ decide (fb.hits d.x d.y d.rows p q % 2 = 1))
  collided_iff : collided = true ↔ ∃ p q : Nat, p < fb.width ∧ q < fb.height ∧
    (1 ≤ fb.hits d.x d.y d.rows p q ∧ fb.pixel? p q = some true ∨
      2 ≤ fb.hits d.x d.y d.rows p q)

theorem Shaped.exists_drawn (h : fb.Shaped) (d : Draw) :
    ∃ next collided, fb.draw d = .ok (next, collided) ∧ fb.Drawn d next collided := by
  obtain ⟨hwidth, hheight, -⟩ := fb.flipSpots_shape d.x d.y (spots (d.rows.map UInt8.ofInt))
  exact ⟨_, _, h.drawSprite_eq _ _ _, h.flipSpots _ _ _, hwidth, hheight,
    h.pixel?_flipSpots _ _ _, h.collided_flipSpots_iff _ _ _⟩

namespace Drawn

variable {d : Draw} {next last : Framebuffer} {first second : Bool}

/-- A second draw hits what the first one hit. -/
theorem hits_eq (hfirst : fb.Drawn d next first) (p q : Nat) :
    next.hits d.x d.y d.rows p q = fb.hits d.x d.y d.rows p q := by
  rw [hits, hits, hfirst.width, hfirst.height]

/-- **A sprite with a set bit collides once if it is drawn twice**: where the bit falls, a pixel is
lit before the first draw or after it, unless the first draw hits it twice. -/
theorem collided_once (h : fb.Shaped) (hfirst : fb.Drawn d next first)
    (hsecond : next.Drawn d last second)
    (hbit : ∃ col row, col < 8 ∧ SetBit d.rows col row) : first = true ∨ second = true := by
  obtain ⟨col, row, hcol, hbit⟩ := hbit
  obtain ⟨p, q, hp, hq, hhit⟩ := h.exists_hits_pos d.x d.y hcol hbit
  obtain ⟨lit, hlit⟩ := h.exists_pixel? hp hq
  rw [hfirst.collided_iff, hsecond.collided_iff]
  by_cases htwice : 2 ≤ fb.hits d.x d.y d.rows p q
  · exact .inl ⟨p, q, hp, hq, .inr htwice⟩
  cases lit with
  | true => exact .inl ⟨p, q, hp, hq, .inl ⟨hhit, hlit⟩⟩
  | false =>
    have hodd : fb.hits d.x d.y d.rows p q % 2 = 1 := by omega
    have hnext : next.pixel? p q = some true := by
      rw [hfirst.pixel? hp, hlit, decide_eq_true hodd]
      rfl
    refine .inr ⟨p, q, hfirst.width ▸ hp, hfirst.height ▸ hq, .inl ⟨?_, hnext⟩⟩
    rw [hfirst.hits_eq]
    exact hhit

/-- **If no pixel is hit twice, the second draw collides with what was dark before the first.** -/
theorem collided_again_iff (h : fb.Shaped) (hfirst : fb.Drawn d next first)
    (hsecond : next.Drawn d last second)
    (honce : ∀ p q, fb.hits d.x d.y d.rows p q ≤ 1) :
    second = true ↔ ∃ p q : Nat, p < fb.width ∧ q < fb.height ∧
      1 ≤ fb.hits d.x d.y d.rows p q ∧ fb.pixel? p q = some false := by
  rw [hsecond.collided_iff, hfirst.width, hfirst.height]
  refine exists_congr fun p => exists_congr fun q => and_congr_right fun hp =>
    and_congr_right fun hq => ?_
  have hle := honce p q
  obtain ⟨lit, hlit⟩ := h.exists_pixel? hp hq
  rw [hfirst.hits_eq, hfirst.pixel? hp, hlit, or_iff_left (by omega)]
  refine and_congr_right fun hhit => ?_
  have hodd : fb.hits d.x d.y d.rows p q % 2 = 1 := by omega
  rw [decide_eq_true hodd]
  simp

end Drawn

/-! ## The algebra of drawing -/

/-- **The algebra of drawing.**  Draws leave the same in every order, and bring everything back if they
are carried out once more, again in any order.  A sprite with a set bit that is drawn twice at one place
collides at least once; if it fits on the display, it collides the second time exactly if it touches
a pixel that was dark before. -/
theorem Shaped.drawAll_perm (h : fb.Shaped) :
    (∀ draws : List Draw, ∃ next, fb.drawAll draws = .ok next ∧
      ∀ others, others.Perm draws →
        fb.drawAll others = .ok next ∧ next.drawAll others = .ok fb) ∧
    ∀ d : Draw, ∃ next last first second,
      fb.draw d = .ok (next, first) ∧ next.draw d = .ok (last, second) ∧
      ((∃ col row, col < 8 ∧ SetBit d.rows col row) → first = true ∨ second = true) ∧
      (8 ≤ fb.width → d.rows.length ≤ fb.height →
        (second = true ↔ ∃ p q : Nat, p < fb.width ∧ q < fb.height ∧
          1 ≤ fb.hits d.x d.y d.rows p q ∧ fb.pixel? p q = some false)) := by
  refine ⟨fun draws => ⟨_, h.drawAll_eq draws, fun others hperm => ?_⟩, fun d => ?_⟩
  · exact ⟨(h.drawAll_of_perm hperm).trans (h.drawAll_eq draws),
      h.drawAll_again hperm (h.drawAll_eq draws)⟩
  · obtain ⟨next, first, hdraw, hfirst⟩ := h.exists_drawn d
    obtain ⟨last, second, hdraw', hsecond⟩ := hfirst.shaped.exists_drawn d
    refine ⟨next, last, first, second, hdraw, hdraw', hfirst.collided_once h hsecond,
      fun hwide hhigh => ?_⟩
    exact hfirst.collided_again_iff h hsecond (hits_le_one d.x d.y hwide hhigh)

/-- Two sprites that overlap, one wrapped to the left and one to the top: either may come first, and both
once more bring the dark display back.  Drawn twice, the first one collides the second time. -/
theorem Shaped.drawAll_perm_wrapped :
    (dark 8 2).Shaped ∧
    (∃ next, (dark 8 2).drawAll [⟨6, 0, [0xF0]⟩, ⟨0, 1, [0x80, 0x80]⟩] = .ok next ∧
      (dark 8 2).drawAll [⟨0, 1, [0x80, 0x80]⟩, ⟨6, 0, [0xF0]⟩] = .ok next ∧
      next.drawAll [⟨0, 1, [0x80, 0x80]⟩, ⟨6, 0, [0xF0]⟩] = .ok (dark 8 2)) ∧
    ∃ next last first, (dark 8 2).draw ⟨6, 0, [0xF0]⟩ = .ok (next, first) ∧
      next.draw ⟨6, 0, [0xF0]⟩ = .ok (last, true) := by
  have hshaped : (dark 8 2).Shaped := ⟨by decide, by decide, by decide⟩
  obtain ⟨horder, htwice⟩ := Shaped.drawAll_perm hshaped
  refine ⟨hshaped, ?_, ?_⟩
  · obtain ⟨next, hnext, hothers⟩ := horder [⟨6, 0, [0xF0]⟩, ⟨0, 1, [0x80, 0x80]⟩]
    exact ⟨next, hnext, hothers _ (List.Perm.swap _ _ _)⟩
  · obtain ⟨next, last, first, second, hfirst, hsecond, -, hagain⟩ := htwice ⟨6, 0, [0xF0]⟩
    have hhit : 1 ≤ (dark 8 2).hits 6 0 [0xF0] 0 0 ∧ (dark 8 2).pixel? 0 0 = some false := by
      decide
    obtain rfl : second = true :=
      (hagain (by decide) (by decide)).2 ⟨0, 0, by decide, by decide, hhit⟩
    exact ⟨next, last, first, hfirst, hsecond⟩

end ChipEight.Framebuffer
