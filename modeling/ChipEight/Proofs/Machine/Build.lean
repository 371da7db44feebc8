import ChipEight.Machine

/-!
# Proofs/Machine/Build — the machine that a program makes

* `build_eq_ok_iff` — **a program makes a machine exactly if it fits and holds bytes only**, and the
  machine is at rest with the font and the program in memory.
-/

namespace ChipEight.Machine

/-- A memory with nothing but the font in it. -/
def fontMemory : Memory :=
  ⟨Memory.patch (Memory.blank memorySize).cells Font.start Font.bytes⟩

/-- The memory with the font in it and a program after it. -/
def image (program : List UInt8) : Memory :=
  ⟨Memory.patch fontMemory.cells programStart program⟩

@[simp] theorem size_fontMemory : fontMemory.size = memorySize := by
  rw [fontMemory, Memory.size, Memory.size_patch]
  exact Memory.size_blank memorySize

/-- An image has the size of the CHIP-8 memory. -/
@[simp] theorem size_image (program : List UInt8) : (image program).size = memorySize := by
  rw [image, Memory.size, Memory.size_patch]
  exact size_fontMemory

/-- The machine at rest with a program in memory. -/
def booted (program : List UInt8) (random : List UInt8) (live : Bool) : Machine :=
  ofParts (image program) (.empty stackDepth) .display random live

/-- The font always fits. -/
theorem load_font :
    (Memory.blank memorySize).load (Font.bytes.map fun b => (b.toNat : Int)) Font.start =
      .ok fontMemory := by
  refine Memory.load_eq_ok_iff.2 ⟨?_, Font.bytes, Memory.bytesOf?_map_toNat Font.bytes, rfl⟩
  rw [Memory.size_blank, List.length_map, Font.length_bytes]
  decide

/-- A program is loaded behind the font exactly if it fits there and holds bytes only. -/
theorem load_program_eq_ok_iff {program : List Int} {memory : Memory} :
    fontMemory.load program programStart = .ok memory ↔
      program.length ≤ 0xE00 ∧
        ∃ bytes, Memory.bytesOf? program = some bytes ∧ memory = image bytes := by
  rw [Memory.load_eq_ok_iff, size_fontMemory, memorySize, programStart]
  refine and_congr_left fun _ => ?_
  omega

/-- **A program makes a machine exactly if it fits behind the font and holds bytes only.** -/
theorem build_eq_ok_iff {program : List Int} {random : List UInt8} {live : Bool} {m : Machine} :
    build program random live = .ok m ↔
      program.length ≤ 0xE00 ∧
        ∃ bytes, Memory.bytesOf? program = some bytes ∧ m = booted bytes random live := by
  rcases hload : fontMemory.load program programStart with failure | memory
  · have hbuild : build program random live = .error failure := by
      rw [build, load_font]
      simp only [bind, Except.bind, hload]
    rw [hbuild]
    refine ⟨nofun, fun ⟨hlength, bytes, hbytes, _⟩ => ?_⟩
    rw [load_program_eq_ok_iff.2 ⟨hlength, bytes, hbytes, rfl⟩] at hload
    nomatch hload
  · obtain ⟨hlength, bytes, hbytes, rfl⟩ := load_program_eq_ok_iff.1 hload
    have hbuild : build program random live = .ok (booted bytes random live) := by
      rw [build, load_font]
      simp only [bind, Except.bind, hload]
      rfl
    rw [hbuild]
    constructor
    · intro h
      exact ⟨hlength, bytes, hbytes, (Except.ok.inj h).symm⟩
    · rintro ⟨-, bytes', hbytes', rfl⟩
      rw [Option.some.inj (hbytes.symm.trans hbytes')]

/-- A program of bytes that fits makes a machine. -/
theorem build_bytes {program : List UInt8} (h : program.length ≤ 0xE00) (random : List UInt8)
    (live : Bool) :
    build (program.map fun b => (b.toNat : Int)) random live = .ok (booted program random live) := by
  refine build_eq_ok_iff.2 ⟨?_, program, Memory.bytesOf?_map_toNat program, rfl⟩
  rw [List.length_map]
  exact h

end ChipEight.Machine
