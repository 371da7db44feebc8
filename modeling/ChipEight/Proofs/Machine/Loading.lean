import ChipEight.Proofs.Machine.Build
import ChipEight.Proofs.Machine.Step
import ChipEight.Proofs.Memory.Blocks

/-!
# Proofs/Machine/Loading — what is loaded, and the digits that are drawn from it

A load checks two things, where its block begins and where it ends, and each has a fault of its own.
A block that passes both is written as it is.  So a machine starts with the font, a gap of zeros, the
program, and zeros after it; and as long as the font is left alone, the address of a digit is that of
its picture.

* `toList_patch` — memory after bytes have been laid over it, from end to end;
* `Memory.run_load_eq_outOfBounds_iff`, `run_load_eq_programTooLarge_iff` — which fault a load has;
* `toList_image` — **the memory that a machine starts with**;
* `Font.glyph`, `HasFont.bytesAt_address` — the picture of a digit, and where it is read;
* `loads_exactly_if_fits` — **a load writes its block exactly if it fits**, and a digit is drawn with
  its picture.
-/

namespace ChipEight

/-! ## Loading a block -/

namespace Memory

variable {m : Memory} {location : Int} {block : List Int}

/-- **Memory with bytes laid over it** has what was before them, the bytes, and what was after them. -/
theorem toList_patch {cells : Array UInt8} {start : Nat} {bytes : List UInt8}
    (h : start + bytes.length ≤ cells.size) :
    (patch cells start bytes).toList =
      cells.toList.take start ++ bytes ++ cells.toList.drop (start + bytes.length) := by
  have hstart : (cells.toList.take start).length = start := by
    rw [List.length_take, Array.length_toList]
    omega
  refine List.ext_getElem? fun i => ?_
  rw [Array.getElem?_toList, getElem?_patch, List.append_assoc]
  by_cases hbefore : i < start
  · rw [if_neg (by omega), List.getElem?_append_left (by omega), List.getElem?_take_of_lt hbefore,
      Array.getElem?_toList]
  rw [List.getElem?_append_right (by omega), hstart]
  by_cases hwithin : i < start + bytes.length
  · rw [if_pos ⟨by omega, hwithin, by omega⟩, List.getElem?_append_left (by omega)]
  · rw [if_neg (by omega), List.getElem?_append_right (by omega), List.getElem?_drop,
      Array.getElem?_toList]
    congr 1
    omega

/-- The address is one of memory. -/
theorem inRange_one_iff : m.InRange location 1 ↔ 0 ≤ location ∧ location < m.size := by
  rw [InRange]
  omega

/-- **A block that begins and ends in memory passes the range check of its write**, also an empty
one. -/
theorem checkRange_of_fits (hlow : 0 ≤ location) (hhigh : location < m.size)
    (hfits : location + block.length ≤ m.size) : m.checkRange location block.length = .ok () :=
  checkRange_eq_ok_iff.2 ⟨hlow, by omega⟩

/-- **A load of bytes in every case**: it checks where the block begins, and then where it ends. -/
theorem load_bytes (m : Memory) (bytes : List UInt8) (location : Int) :
    m.load (bytes.map fun b => (b.toNat : Int)) location =
      if location < 0 ∨ m.size ≤ location then
        .error (.machine (.outOfBounds 1 location m.top))
      else if m.size < location + bytes.length then
        .error (.machine (.programTooLarge bytes.length location m.top))
      else .ok ⟨patch m.cells location.toNat bytes⟩ := by
  by_cases hout : location < 0 ∨ m.size ≤ location
  · have hrange : ¬m.InRange location 1 := fun h => by
      have := inRange_one_iff.1 h
      omega
    rw [if_pos hout, load, checkRange_eq_error_iff.2 ⟨hrange, rfl⟩]
    rfl
  have hrange : m.InRange location 1 := inRange_one_iff.2 (by omega)
  rw [if_neg hout]
  by_cases hlarge : m.size < location + bytes.length
  · rw [if_pos hlarge, load, checkRange_eq_ok_iff.2 hrange]
    simp only [List.length_map, gt_iff_lt, hlarge, if_true]
    rfl
  · rw [if_neg hlarge]
    refine load_eq_ok_iff.2 ⟨⟨by omega, by omega, ?_⟩, bytes, bytesOf?_map_toNat bytes, rfl⟩
    rw [List.length_map]
    omega

/-- A load that fails leaves the memory in use as it was. -/
theorem run_load_bytes (m : Memory) (bytes : List UInt8) (location : Int) :
    (carryOut (·.load (bytes.map fun b => (b.toNat : Int)) location)).run m =
      if location < 0 ∨ m.size ≤ location then
        .error (.machine (.outOfBounds 1 location m.top)) m
      else if m.size < location + bytes.length then
        .error (.machine (.programTooLarge bytes.length location m.top)) m
      else .ok () ⟨patch m.cells location.toNat bytes⟩ := by
  have hload := load_bytes m bytes location
  split
  · next hout =>
    rw [if_pos hout] at hload
    exact run_carryOut_of_error hload
  next hout =>
    rw [if_neg hout] at hload
    split
    · next hlarge =>
      rw [if_pos hlarge] at hload
      exact run_carryOut_of_error hload
    · next hlarge =>
      rw [if_neg hlarge] at hload
      exact run_carryOut_of_ok hload

/-- **What is loaded of a block, and nothing else.** -/
structure Loaded (m : Memory) (location : Int) (bytes : List UInt8) (next : Memory) : Prop where
  size_eq : next.size = m.size
  /-- The bytes of the block stand one after the other from the location on. -/
  within : ∀ (i : Nat) b, bytes[i]? = some b → next.readByte (location + i) = .ok b
  /-- All other addresses hold what they held. -/
  outside : ∀ address, address < location ∨ location + bytes.length ≤ address →
    next.readByte address = m.readByte address

theorem loaded_patch {bytes : List UInt8} (hlow : 0 ≤ location)
    (hfits : location + bytes.length ≤ m.size) :
    m.Loaded location bytes ⟨patch m.cells location.toNat bytes⟩ where
  size_eq := size_patch ..
  within i b hb := by
    have hsize : m.cells.size = m.size := rfl
    have hhigh : location + bytes.length ≤ (⟨patch m.cells location.toNat bytes⟩ : Memory).size := by
      rwa [size, size_patch]
    have hread : bytesAt ⟨patch m.cells location.toNat bytes⟩ location.toNat bytes.length = bytes :=
      bytesAt_patch m.cells (by omega)
    rw [← hread] at hb
    exact ((getElem?_bytesAt_eq_some_iff hlow hhigh).1 hb).2
  outside address := readByte_patch_of_outside hlow

/-- A load has one fault for a block that begins outside memory. -/
theorem run_load_eq_outOfBounds_iff (m : Memory) (bytes : List UInt8) (location : Int) :
    (carryOut (·.load (bytes.map fun b => (b.toNat : Int)) location)).run m =
        .error (.machine (.outOfBounds 1 location m.top)) m ↔
      location < 0 ∨ m.size ≤ location := by
  rw [run_load_bytes]
  split
  · next h => exact iff_of_true rfl h
  · next h =>
    refine iff_of_false ?_ h
    split <;> exact nofun

/-- …and another for one that begins in memory and ends outside it. -/
theorem run_load_eq_programTooLarge_iff (m : Memory) (bytes : List UInt8) (location : Int) :
    (carryOut (·.load (bytes.map fun b => (b.toNat : Int)) location)).run m =
        .error (.machine (.programTooLarge bytes.length location m.top)) m ↔
      (0 ≤ location ∧ location < m.size) ∧ m.size < location + bytes.length := by
  rw [run_load_bytes]
  split
  · exact iff_of_false nofun (by omega)
  · split
    · exact iff_of_true rfl (by omega)
    · exact iff_of_false nofun (by omega)

/-- Bytes read within others that have been read. -/
theorem take_drop_bytesAt (m : Memory) {start skipped count total : Nat}
    (h : skipped + count ≤ total) :
    ((m.bytesAt start total).drop skipped).take count = m.bytesAt (start + skipped) count := by
  refine List.ext_getElem? fun i => ?_
  rw [List.getElem?_take, List.getElem?_drop, getElem?_bytesAt, getElem?_bytesAt, Nat.add_assoc]
  split
  · rw [if_pos (by omega)]
  · rfl

end Memory

/-! ## The memory that a machine starts with -/

namespace Machine

/-- A memory with nothing but the font in it. -/
theorem toList_fontMemory :
    fontMemory.cells.toList = Font.bytes ++ List.replicate (memorySize - 80) 0 := by
  have hsize : (Memory.blank memorySize).cells.size = memorySize := Memory.size_blank memorySize
  have hblank : (Memory.blank memorySize).cells.toList = List.replicate memorySize 0 :=
    Array.toList_replicate
  have hfont : Font.bytes.length = 80 := Font.length_bytes
  rw [fontMemory, Memory.toList_patch (by rw [hsize]; decide), hblank, List.drop_replicate, hfont,
    Font.start, List.take_zero, List.nil_append]

/-- **The memory that a machine starts with**: the font, zeros, the program, and zeros. -/
theorem toList_image {program : List UInt8} (h : program.length ≤ 0xE00) :
    (image program).cells.toList =
      Font.bytes ++ List.replicate (0x200 - 80) 0 ++ program ++
        List.replicate (0xE00 - program.length) 0 := by
  have hfont : Font.bytes.length = 80 := Font.length_bytes
  have hfits : programStart + program.length ≤ fontMemory.cells.size := by
    change _ ≤ fontMemory.size
    rw [size_fontMemory, programStart, memorySize]
    omega
  have hgap : min (0x200 - 80) (0x1000 - 80) = 0x200 - 80 := by decide
  have hrest : 0x1000 - 80 - (0x200 + program.length - 80) = 0xE00 - program.length := by omega
  rw [image, Memory.toList_patch hfits, toList_fontMemory, programStart, memorySize,
    List.take_append, List.drop_append, List.take_of_length_le (by rw [hfont]; decide),
    List.drop_of_length_le (by rw [hfont]; omega), List.take_replicate, List.drop_replicate,
    List.nil_append, hfont, hgap, hrest]

/-- **A program makes no machine exactly if it is too large**, and the fault says so. -/
theorem build_eq_programTooLarge_iff {program : List UInt8} {random : List UInt8} {live : Bool} :
    build (program.map fun b => (b.toNat : Int)) random live =
        .error (.machine (.programTooLarge program.length 0x200 0xFFF)) ↔
      0xE00 < program.length := by
  by_cases h : program.length ≤ 0xE00
  · rw [build_bytes h]
    exact iff_of_false nofun (by omega)
  · have hload : fontMemory.load (program.map fun b => (b.toNat : Int)) programStart =
        .error (.machine (.programTooLarge program.length 0x200 0xFFF)) := by
      have htop : fontMemory.top = 0xFFF := by
        rw [Memory.top, size_fontMemory]
        rfl
      rw [Memory.load_bytes, size_fontMemory, if_neg (by decide), htop,
        if_pos (by rw [programStart, memorySize]; omega)]
      rfl
    refine iff_of_true ?_ (by omega)
    rw [build, load_font]
    simp only [bind, Except.bind, hload]

end Machine

/-! ## The picture of a digit -/

/-- The picture of a digit: five rows. -/
def Font.glyph (d : Digit) : List UInt8 :=
  (Font.bytes.drop (Font.glyphSize * d.val)).take Font.glyphSize

namespace Machine

open Instruction

variable {m : Machine} {x a b : Digit}

/-- The font stands where machines have it. -/
def HasFont (m : Machine) : Prop := m.memory.bytesAt Font.start Font.bytes.length = Font.bytes

instance (m : Machine) : Decidable m.HasFont := inferInstanceAs (Decidable (_ = _))

/-- **The address of a digit is that of its picture.** -/
theorem HasFont.bytesAt_address (h : m.HasFont) (d : Digit) :
    m.memory.bytesAt (Font.address d) Font.glyphSize = Font.glyph d := by
  have hfits : Font.glyphSize * d.val + Font.glyphSize ≤ Font.bytes.length := by
    rw [Font.length_bytes, Font.glyphSize]
    omega
  rw [Font.glyph, ← h, Memory.take_drop_bytesAt _ hfits]
  rfl

/-- The picture of a digit lies in memory. -/
theorem HasFont.inRange_address (h : m.HasFont) (d : Digit) :
    m.memory.InRange (Font.address d) Font.glyphSize := by
  have hlength := congrArg List.length h
  have hsize : m.memory.cells.size = m.memory.size := rfl
  rw [Memory.bytesAt, Array.length_toList, Array.size_extract, Font.length_bytes, Font.start,
    Font.glyphSize] at hlength
  rw [Memory.InRange, Font.address, Font.start, Font.glyphSize]
  omega

/-- **What a machine leaves that draws a sprite** with its corner in two registers. -/
def DrawsSprite (m : Machine) (a b : Digit) (sprite : List UInt8) (next : Machine) : Prop :=
  ∃ collision, m.display.drawSprite (Int.fmod (m.reg a).toNat m.display.width)
      (Int.fmod (m.reg b).toNat m.display.height) sprite = .ok (next.display, collision) ∧
    next.reg flagRegister = if collision then 1 else 0

/-- A draw draws the sprite that it reads. -/
theorem step_of_draw {rows : Digit} {sprite : List UInt8} (hbegins : m.Begins (.draw a b rows))
    (hwidth : m.display.width ≠ 0) (hheight : m.display.height ≠ 0)
    (hread : m.memory.readBlock m.index rows.val = .ok sprite) :
    m.step.result = .ok true ∧ m.DrawsSprite a b sprite m.step.machine := by
  have hrange : m.memory.InRange m.index rows.val := Decidable.by_contra fun hout => by
    rw [Memory.readBlock_of_not_inRange hout] at hread
    nomatch hread
  have hsides : ¬(m.display.width = 0 ∨ m.display.height = 0) := by
    rintro (h | h)
    · exact hwidth h
    · exact hheight h
  obtain rfl := Except.ok.inj ((Memory.readBlock_of_inRange hrange).symm.trans hread)
  rw [step_of_ok hbegins (run_drawAt_eq_ok_iff.2 ⟨hrange, hsides, rfl⟩)]
  refine ⟨rfl, (m.drawing a b rows.val).2, Framebuffer.drawSprite_of_sides hwidth hheight, ?_⟩
  rw [reg_setReg, if_pos rfl]
  rfl

/-- **After the address of a digit has been looked up, its picture is read at the index.** -/
theorem Executes.readBlock_glyph (h : m.Executes (.glyph x)) (hfont : m.HasFont) :
    m.step.machine.memory.readBlock m.step.machine.index Font.glyphSize =
      .ok (Font.glyph (Digit.ofByte (m.reg x))) := by
  have hmachine : m.step.machine =
      { m.begun with index := Font.address (Digit.ofByte (m.reg x)) } :=
    (EStateM.Result.ok.inj h.run).2.symm
  rw [hmachine, ← hfont.bytesAt_address]
  exact Memory.readBlock_of_inRange (hfont.inRange_address _)

/-! ## From the file to the display -/

/-- **A load writes its block exactly if it fits.**  It has one fault for a block that does not begin
in memory and another for one that does not end there; memory is left as it is by both, and by a load
without a fault but for the block, whose write never fails.

So a program makes a machine exactly if it takes no more than `0xE00` bytes, and the machine starts
with the font, zeros, the program, and zeros.  As long as the font is left alone, whatever else has
become of the machine, a draw of five rows right after the address of a register's digit has been
looked up draws the picture of that digit. -/
theorem loads_exactly_if_fits :
    (∀ (memory : Memory) (block : List UInt8) (location : Int),
      let numbers := block.map fun b => (b.toNat : Int)
      let loaded := (Memory.carryOut (·.load numbers location)).run memory
      (loaded = .error (.machine (.outOfBounds 1 location memory.top)) memory ↔
        location < 0 ∨ memory.size ≤ location) ∧
      (loaded = .error (.machine (.programTooLarge block.length location memory.top)) memory ↔
        (0 ≤ location ∧ location < memory.size) ∧ memory.size < location + block.length) ∧
      (0 ≤ location → location < memory.size → location + block.length ≤ memory.size →
        memory.checkRange location numbers.length = .ok () ∧
          ∃ next, loaded = .ok () next ∧ memory.Loaded location block next)) ∧
    (∀ (program random : List UInt8) (live : Bool),
      let built := build (program.map fun b => (b.toNat : Int)) random live
      (built = .error (.machine (.programTooLarge program.length 0x200 0xFFF)) ↔
        0xE00 < program.length) ∧
      (program.length ≤ 0xE00 → ∃ m, built = .ok m ∧ m.memory.cells.toList =
        Font.bytes ++ List.replicate (0x200 - 80) 0 ++ program ++
          List.replicate (0xE00 - program.length) 0)) ∧
    ∀ (m : Machine) (x a b : Digit), m.HasFont → m.Executes (.glyph x) →
      let ready := m.step.machine
      let picture := Font.glyph (Digit.ofByte (m.reg x))
      ready.memory.readBlock ready.index 5 = .ok picture ∧
        (ready.Begins (.draw a b 5) → ready.display.width ≠ 0 → ready.display.height ≠ 0 →
          ready.step.result = .ok true ∧ ready.DrawsSprite a b picture ready.step.machine) := by
  refine ⟨fun memory block location => ⟨Memory.run_load_eq_outOfBounds_iff ..,
      Memory.run_load_eq_programTooLarge_iff .., fun hlow hhigh hfits => ⟨?_, _, ?_,
        Memory.loaded_patch hlow hfits⟩⟩,
    fun program random live => ⟨build_eq_programTooLarge_iff, fun h => ?_⟩,
    fun m x a b hfont hglyph => ?_⟩
  · exact Memory.checkRange_of_fits hlow hhigh (by rwa [List.length_map])
  · rw [Memory.run_load_bytes, if_neg (by omega), if_neg (by omega)]
  · exact ⟨_, build_bytes h random live, toList_image h⟩
  · have hread := hglyph.readBlock_glyph hfont
    exact ⟨hread, fun hdraw hwidth hheight => step_of_draw hdraw hwidth hheight hread⟩

/-- A block of two bytes ends at the top of a memory of three, one address further on it is too large,
and at the top there is no address even for a block of none.  A program whose register 0 is `0x1A`
draws the digit A. -/
theorem loads_exactly_if_fits_digit :
    let memory : Memory := ⟨#[1, 2, 3]⟩
    let program : List UInt8 := [0x60, 0x1A, 0xF0, 0x29, 0xD1, 0x25]
    let m := (booted program [] false).step.machine
    (∃ next, (Memory.carryOut (·.load [7, 8] 1)).run memory = .ok () next ∧
      memory.Loaded 1 [7, 8] next) ∧
    (Memory.carryOut (·.load [7, 8] 2)).run memory =
      .error (.machine (.programTooLarge 2 2 2)) memory ∧
    (Memory.carryOut (·.load [] 3)).run memory = .error (.machine (.outOfBounds 1 3 2)) memory ∧
    (∃ built, build (program.map fun b => (b.toNat : Int)) [] false = .ok built ∧
      built.memory.cells.toList = Font.bytes ++ List.replicate (0x200 - 80) 0 ++ program ++
        List.replicate (0xE00 - 6) 0) ∧
    m.HasFont ∧ m.Executes (.glyph 0x0) ∧
    m.step.machine.memory.readBlock m.step.machine.index 5 = .ok [0xF0, 0x90, 0xF0, 0x90, 0x90] ∧
    m.step.machine.step.result = .ok true ∧
    m.step.machine.DrawsSprite 0x1 0x2 [0xF0, 0x90, 0xF0, 0x90, 0x90] m.step.machine.step.machine := by
  intro memory program m
  obtain ⟨hload, hbuild, hglyph⟩ := loads_exactly_if_fits
  obtain ⟨hfont, hexecutes, hdraw, hwidth, hheight, hdigit⟩ : m.HasFont ∧ m.Executes (.glyph 0x0) ∧
      m.step.machine.Begins (.draw 0x1 0x2 0x5) ∧ m.step.machine.display.width ≠ 0 ∧
      m.step.machine.display.height ≠ 0 ∧
      Font.glyph (Digit.ofByte (m.reg 0x0)) = [0xF0, 0x90, 0xF0, 0x90, 0x90] := by
    decide +kernel
  obtain ⟨hread, hdrawn⟩ := hglyph m 0x0 0x1 0x2 hfont hexecutes
  rw [hdigit] at hread hdrawn
  exact ⟨((hload memory [7, 8] 1).2.2 (by decide) (by decide) (by decide)).2,
    (hload memory [7, 8] 2).2.1.2 (by decide), (hload memory [] 3).1.2 (by decide),
    (hbuild program [] false).2 (by decide), hfont, hexecutes, hread, hdrawn hdraw hwidth hheight⟩

end Machine

end ChipEight
