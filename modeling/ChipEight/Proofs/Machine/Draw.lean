import ChipEight.Proofs.Framebuffer.Hits
import ChipEight.Proofs.Machine.Bounds
import ChipEight.Proofs.Memory.Blocks

/-!
# Proofs/Machine/Draw — a draw, from the bytes at the index to the pixels

A draw reads its rows at the index, takes its corner from two registers, and flips the pixel under each
set bit; both sides wrap.  At most fifteen rows of eight bits fit on the display, so that no two of
them fall on one pixel, and a flip of a pixel is a change of it.  The flag is written last, and tells
whether a lit pixel was flipped: it may be one of the registers of the corner.

* `Touches` — a set bit of the sprite falls on a pixel;
* `mem_drawnPlaces`, `nodup_drawnPlaces` — the places that are flipped are those, each flipped once;
* `exists_run_draw` — a draw whose rows lie in memory takes place, and what it leaves;
* `Reachable.draw_toggles` — **what a draw leaves**, on every reachable machine.
-/

namespace ChipEight.Machine

open Instruction Framebuffer

variable {m next : Machine} {x y n : Digit}

/-! ## The pixels under the set bits -/

/-- A set bit falls on the pixel in column `p` of row `q`.  The sprite has `n` rows, which stand at the
index; the highest bit of a row is its leftmost, and the corner stands in registers `x` and `y`. -/
def Touches (m : Machine) (x y n : Digit) (p q : Nat) : Prop :=
  ∃ col row : Nat, col < 8 ∧ row < n.val ∧
    (∃ b, m.memory.readByte (m.index + row) = .ok b ∧ b.toNat.testBit (7 - col) = true) ∧
    p = ((m.reg x).toNat + col) % 64 ∧ q = ((m.reg y).toNat + row) % 32

/-- The places that a draw flips, one after the other. -/
def drawnPlaces (m : Machine) (x y n : Digit) : List Nat :=
  m.display.placesOf (Int.fmod (m.reg x).toNat m.display.width)
    (Int.fmod (m.reg y).toNat m.display.height) (spots (m.memory.bytesAt m.index.toNat n.val))

theorem drawing_eq (m : Machine) (x y n : Digit) :
    m.drawing x y n.val = flipAll (m.display, false) (m.drawnPlaces x y n) :=
  flipSpots_eq_flipAll _ _ _ _

/-- The display of a well-formed machine has a pixel for every place. -/
theorem WellFormed.shaped (h : m.WellFormed) : m.display.Shaped where
  width_pos := by rw [h.display_width]; decide
  height_pos := by rw [h.display_height]; decide
  size_pixels := by rw [h.display_width, h.display_height, h.display_size]; rfl

/-- **A draw flips the pixels under the set bits.** -/
theorem mem_drawnPlaces (h : m.WellFormed) (hfits : m.index + max (n.val : Int) 1 ≤ 0x1000) {i : Nat} :
    i ∈ m.drawnPlaces x y n ↔ ∃ p q, i = q * 64 + p ∧ m.Touches x y n p q := by
  have hindex := h.index_bounds.1
  have hrows : m.index + n.val ≤ m.memory.size := by
    rw [h.memory_size]
    omega
  have hplace (col row : Nat) :
      m.display.place (Int.fmod (m.reg x).toNat m.display.width + col)
          (Int.fmod (m.reg y).toNat m.display.height + row) =
        ((m.reg y).toNat + row) % 32 * 64 + ((m.reg x).toNat + col) % 64 := by
    -- the corner is wrapped by itself, and once more with what is added to it
    rw [h.shaped.place_eq, h.display_width, h.display_height,
      Int.fmod_eq_emod_of_nonneg _ (by decide), Int.fmod_eq_emod_of_nonneg _ (by decide),
      show (64 : Int).toNat = 64 from rfl]
    omega
  simp only [drawnPlaces, placesOf, List.mem_map, Prod.exists, mem_spots,
    Memory.getElem?_bytesAt_eq_some_iff hindex hrows, hplace]
  constructor
  · rintro ⟨col, row, ⟨hcol, b, ⟨hrow, hread⟩, hbit⟩, rfl⟩
    exact ⟨_, _, rfl, col, row, hcol, hrow, ⟨b, hread, hbit⟩, rfl, rfl⟩
  · rintro ⟨p, q, rfl, col, row, hcol, hrow, ⟨b, hread, hbit⟩, rfl, rfl⟩
    exact ⟨col, row, ⟨hcol, b, ⟨hrow, hread⟩, hbit⟩, rfl⟩

/-- The place of a pixel is flipped if the pixel is touched. -/
theorem mem_drawnPlaces_iff_touches (h : m.WellFormed)
    (hfits : m.index + max (n.val : Int) 1 ≤ 0x1000) {p q : Nat} (hp : p < 64) :
    q * 64 + p ∈ m.drawnPlaces x y n ↔ m.Touches x y n p q := by
  rw [mem_drawnPlaces h hfits]
  constructor
  · rintro ⟨p', q', hplace, htouches⟩
    have ⟨_, _, _, _, _, hp', _⟩ := htouches
    obtain ⟨rfl, rfl⟩ := (rowMajor_inj hp (by omega)).1 hplace
    exact htouches
  · exact fun htouches => ⟨p, q, rfl, htouches⟩

/-- **No pixel is flipped twice**: a sprite has fifteen rows at most. -/
theorem nodup_drawnPlaces (h : m.WellFormed) : (m.drawnPlaces x y n).Nodup := by
  have hrows := m.memory.length_bytesAt_le m.index.toNat n.val
  have hn := n.isLt
  refine h.shaped.nodup_placesOf _ _ ?_ ?_
  · rw [h.display_width]
    decide
  · rw [h.display_height]
    omega

/-! ## What a draw changes -/

/-- Where a pixel is stored. -/
theorem WellFormed.pixel?_eq (h : m.WellFormed) (p q : Nat) :
    m.display.pixel? p q = m.display.pixels[q * 64 + p]? := by
  rw [pixel?, h.display_width]
  rfl

/-- **What a draw changes**: exactly the pixels that are touched. -/
theorem WellFormed.exists_pixel?_drawing (h : m.WellFormed)
    (hfits : m.index + max (n.val : Int) 1 ≤ 0x1000) {p q : Nat} (hp : p < 64) (hq : q < 32) :
    ∃ lit, m.display.pixel? p q = some lit ∧
      (m.Touches x y n p q → (m.drawing x y n.val).1.pixel? p q = some !lit) ∧
      (¬m.Touches x y n p q → (m.drawing x y n.val).1.pixel? p q = some lit) := by
  obtain ⟨lit, hlit⟩ : ∃ lit, m.display.pixel? p q = some lit :=
    h.shaped.exists_pixel? (by rw [h.display_width]; omega) (by rw [h.display_height]; omega)
  obtain ⟨hwidth, -, -⟩ := flipAll_shape (m.display, false) (m.drawnPlaces x y n)
  have hplace := mem_drawnPlaces_iff_touches (x := x) (y := y) h hfits (q := q) hp
  have hnext : (m.drawing x y n.val).1.pixel? p q =
      some (lit ^^ decide (q * 64 + p ∈ m.drawnPlaces x y n)) := by
    rw [h.pixel?_eq] at hlit
    rw [drawing_eq, pixel?, hwidth, h.display_width,
      getElem?_flipAll_of_nodup _ (nodup_drawnPlaces h)]
    exact congrArg (Option.map _) hlit
  refine ⟨lit, hlit, fun htouches => ?_, fun hclear => ?_⟩
  · rw [hnext, decide_eq_true (hplace.2 htouches), Bool.xor_true]
  · rw [hnext, decide_eq_false (mt hplace.1 hclear), Bool.xor_false]

/-- **When a draw collides**: a pixel that is touched was lit. -/
theorem WellFormed.collided_drawing_iff (h : m.WellFormed)
    (hfits : m.index + max (n.val : Int) 1 ≤ 0x1000) :
    (m.drawing x y n.val).2 = true ↔
      ∃ p q, m.Touches x y n p q ∧ m.display.pixel? p q = some true := by
  simp only [drawing_eq, collided_flipAll_iff_of_nodup _ (nodup_drawnPlaces h),
    mem_drawnPlaces h hfits, h.pixel?_eq]
  constructor
  · rintro ⟨_, ⟨p, q, rfl, htouches⟩, hlit⟩
    exact ⟨p, q, htouches, hlit⟩
  · rintro ⟨p, q, htouches, hlit⟩
    exact ⟨_, ⟨p, q, rfl, htouches⟩, hlit⟩

/-! ## What a draw leaves -/

/-- **What a draw leaves.** -/
structure Draws (m : Machine) (x y n : Digit) (next : Machine) : Prop where
  /-- The pixels are flipped one after the other, none of them twice. -/
  flips : ∃ places : List Nat, next.display = (flipAll (m.display, false) places).1 ∧
    places.Nodup ∧ ∀ i, i ∈ places ↔ ∃ p q, i = q * 64 + p ∧ m.Touches x y n p q
  /-- The pixels that are touched are no longer what they were, and all others are. -/
  pixels : ∀ p q : Nat, p < 64 → q < 32 → ∃ lit, m.display.pixel? p q = some lit ∧
    (m.Touches x y n p q → next.display.pixel? p q = some !lit) ∧
    (¬m.Touches x y n p q → next.display.pixel? p q = some lit)
  /-- The flag is set if a pixel that is touched was lit. -/
  hit : (∃ p q, m.Touches x y n p q ∧ m.display.pixel? p q = some true) →
    next.reg flagRegister = 1
  miss : (¬∃ p q, m.Touches x y n p q ∧ m.display.pixel? p q = some true) →
    next.reg flagRegister = 0
  index : next.index = m.index
  memory : next.memory = m.memory
  registers : ∀ z, z ≠ flagRegister → next.reg z = m.reg z

/-- A draw of no rows sets no flag. -/
theorem Draws.flag_of_no_rows (h : m.Draws x y 0x0 next) : next.reg flagRegister = 0 :=
  h.miss fun ⟨_, _, ⟨_, _, _, hrow, _⟩, _⟩ => absurd hrow (Nat.not_lt_zero _)

/-- **A draw whose rows lie in memory takes place.** -/
theorem exists_run_draw (h : m.WellFormed) (x y : Digit)
    (hfits : m.index + max (n.val : Int) 1 ≤ 0x1000) :
    ∃ next, (execute (.draw x y n)).run m = .ok () next ∧ m.Draws x y n next := by
  have hrange : m.memory.InRange m.index n.val := by
    refine ⟨h.index_bounds.1, ?_⟩
    rw [h.memory_size]
    exact hfits
  have hsides : ¬(m.display.width = 0 ∨ m.display.height = 0) := by
    rw [h.display_width, h.display_height]
    decide
  have hcollided := h.collided_drawing_iff (x := x) (y := y) hfits
  refine ⟨_, run_drawAt_eq_ok_iff.2 ⟨hrange, hsides, rfl⟩,
    ⟨_, congrArg Prod.fst (drawing_eq m x y n), nodup_drawnPlaces h,
      fun _ => mem_drawnPlaces h hfits⟩,
    fun p q hp hq => h.exists_pixel?_drawing hfits hp hq, fun hhit => ?_, fun hmiss => ?_,
    rfl, rfl, fun z hz => ?_⟩
  -- the flag is written last, also if it is a register of the corner
  · rw [reg_setReg, if_pos rfl, if_pos (hcollided.2 hhit)]
  · rw [reg_setReg, if_pos rfl, if_neg (mt hcollided.1 hmiss)]
  · rw [reg_setReg, if_neg (Ne.symm hz)]
    rfl

/-- The word that was fetched, and where the machine goes on, are nothing to a draw. -/
theorem Draws.of_fetched {opcode origin pc : Int}
    (h : Draws { m with opcode, origin, pc } x y n next) : m.Draws x y n next :=
  ⟨h.flips, h.pixels, h.hit, h.miss, h.index, h.memory, h.registers⟩

/-- **What a draw leaves**, on every reachable machine whose index leaves room for the rows: by itself
and as a step.  A pixel changes if a set bit of the sprite falls on it, both sides wrapped, and none is
flipped twice.  The flag is set if one of them was lit; a draw of no rows clears it. -/
theorem Reachable.draw_toggles (hm : Reachable m) (x y n : Digit)
    (hfits : m.index + max (n.val : Int) 1 ≤ 0x1000) :
    (∃ next, m.Runs ⟨0xD, x, y, n⟩ next ∧ m.Draws x y n next ∧
      (n = 0x0 → next.reg flagRegister = 0)) ∧
    (m.Begins (.draw x y n) → m.step.result = .ok true ∧ m.Draws x y n m.step.machine) := by
  have h := hm.wellFormed
  constructor
  · have hfetched : ({ m with opcode := (⟨0xD, x, y, n⟩ : Word).toNat } : Machine).WellFormed :=
      { h with opcode_bounds := (h.fetched ⟨0xD, x, y, n⟩).opcode_bounds }
    obtain ⟨next, hrun, hdraws⟩ := exists_run_draw hfetched x y hfits
    refine ⟨next, runs_of_row (.draw x y n) hrun, .of_fetched hdraws, ?_⟩
    rintro rfl
    exact (Draws.of_fetched hdraws).flag_of_no_rows
  · intro hbegins
    obtain ⟨next, hrun, hdraws⟩ := exists_run_draw (h.begun hbegins.inRange) x y hfits
    rw [step_of_ok hbegins hrun]
    exact ⟨rfl, .of_fetched hdraws⟩

/-- Register F, set to 63, is both sides of the corner.  The first row of the digit 0 stands on the
display and is drawn again, which sets the flag, and the second row wraps around below. -/
theorem Reachable.draw_toggles_corner :
    let m := (booted [0x6F, 0x3F, 0xDF, 0xF1, 0x6F, 0x3F, 0xDF, 0xF2] [] false).run
      [.step, .step, .step]
    m.index + max ((0x2 : Digit).val : Int) 1 ≤ 0x1000 ∧ m.Begins (.draw 0xF 0xF 0x2) ∧
      m.step.result = .ok true ∧ m.reg flagRegister = 63 ∧ m.step.machine.reg flagRegister = 1 ∧
      m.display.pixel? 2 31 = some true ∧ m.step.machine.display.pixel? 2 31 = some false ∧
      m.display.pixel? 2 0 = some false ∧ m.step.machine.display.pixel? 2 0 = some true := by
  intro m
  have hm : Reachable m := (Reachable.of_booted (by decide) [] false).run _
  obtain ⟨hfits, hbegins, hreg, hlit, hdark, hrow, hrow'⟩ :
      m.index + max ((0x2 : Digit).val : Int) 1 ≤ 0x1000 ∧ m.Begins (.draw 0xF 0xF 0x2) ∧
        (m.reg 0xF).toNat = 63 ∧ m.display.pixel? 2 31 = some true ∧
        m.display.pixel? 2 0 = some false ∧ m.memory.readByte (m.index + 0) = .ok 0xF0 ∧
        m.memory.readByte (m.index + 1) = .ok 0x90 := by decide +kernel
  have hfirst : m.Touches 0xF 0xF 0x2 2 31 :=
    ⟨3, 0, by decide, by decide, ⟨0xF0, hrow, by decide⟩, by rw [hreg], by rw [hreg]⟩
  have hsecond : m.Touches 0xF 0xF 0x2 2 0 :=
    ⟨3, 1, by decide, by decide, ⟨0x90, hrow', by decide⟩, by rw [hreg], by rw [hreg]⟩
  obtain ⟨hresult, hdraws⟩ := (Reachable.draw_toggles hm 0xF 0xF 0x2 hfits).2 hbegins
  have hpixel {p q : Nat} {lit : Bool} (hp : p < 64) (hq : q < 32)
      (htouches : m.Touches 0xF 0xF 0x2 p q) (hlit : m.display.pixel? p q = some lit) :
      m.step.machine.display.pixel? p q = some !lit := by
    obtain ⟨lit', hlit', hflip, -⟩ := hdraws.pixels p q hp hq
    obtain rfl : lit = lit' := Option.some.inj (hlit.symm.trans hlit')
    exact hflip htouches
  exact ⟨hfits, hbegins, hresult, UInt8.toNat_inj.1 hreg, hdraws.hit ⟨2, 31, hfirst, hlit⟩, hlit,
    hpixel (by decide) (by decide) hfirst hlit, hdark,
    hpixel (by decide) (by decide) hsecond hdark⟩

end ChipEight.Machine
