import ChipEight.Failure

/-!
# Memory — bytes at addresses, every access checked

A memory is a row of bytes.  An access names its first address and a number of bytes; it is in range
if all of them lie in memory, and an access of no bytes is checked like one of a single byte.  An
access out of range fails as a whole, so a failed write leaves nothing behind.

* `checkRange_eq_ok_iff` — the condition under which an access passes;
* `size_patch`, `getElem?_patch` — a patch keeps the size and changes exactly its bytes.
-/

namespace ChipEight

/-- A row of bytes. -/
structure Memory where
  cells : Array UInt8
deriving DecidableEq, Repr

namespace Memory

/-! ## Size and range -/

/-- The number of bytes. -/
def size (m : Memory) : Nat := m.cells.size

/-- The last address, -1 for a memory without bytes. -/
def top (m : Memory) : Int := (m.size : Int) - 1

/-- A memory of zeros. -/
def blank (size : Nat) : Memory := ⟨Array.replicate size 0⟩

/-- A memory of a size that may be asked for wrongly. -/
def ofSize (size : Int) : Except Failure Memory :=
  (cellCount size).map blank

/-- An access of `count` bytes at `location` lies in memory; no bytes count as one. -/
def InRange (m : Memory) (location count : Int) : Prop :=
  0 ≤ location ∧ location + max count 1 ≤ m.size

instance (m : Memory) (location count : Int) : Decidable (m.InRange location count) :=
  inferInstanceAs (Decidable (_ ∧ _))

/-- Passes an access in range and fails any other. -/
def checkRange (m : Memory) (location count : Int) : Except Failure Unit :=
  if m.InRange location count then .ok ()
  else .error (.machine (.outOfBounds count location m.top))

/-! ## Reading -/

/-- The byte at an address. -/
def readByte (m : Memory) (location : Int) : Except Failure UInt8 := do
  m.checkRange location 1
  return m.cells.getD location.toNat 0

/-- Where a block that starts at `location` ends.  A block of fewer than no bytes that would end
below zero ends as far from the top instead. -/
def blockEnd (m : Memory) (location count : Int) : Int :=
  if location + count < 0 then location + count + m.size else location + count

/-- A block of bytes. -/
def readBlock (m : Memory) (location count : Int) : Except Failure (List UInt8) := do
  m.checkRange location count
  return (m.cells.extract location.toNat (m.blockEnd location count).toNat).toList

/-- The bytes at the addresses from `start` on, `count` of them if there are as many. -/
def bytesAt (m : Memory) (start count : Nat) : List UInt8 :=
  (m.cells.extract start (start + count)).toList

/-! ## Writing -/

/-- Bytes laid over the cells from `start` on; what runs past the end is dropped. -/
def patch (cells : Array UInt8) (start : Nat) : List UInt8 → Array UInt8
  | [] => cells
  | b :: rest => patch (cells.setIfInBounds start b) (start + 1) rest

/-- The low byte of a number written at an address. -/
def writeByte (m : Memory) (location value : Int) : Except Failure Memory := do
  m.checkRange location 1
  return ⟨m.cells.setIfInBounds location.toNat (UInt8.ofInt value)⟩

/-- Bytes written from an address on. -/
def writeBytes (m : Memory) (location : Int) (bytes : List UInt8) : Except Failure Memory := do
  m.checkRange location bytes.length
  return ⟨patch m.cells location.toNat bytes⟩

/-- The bytes that numbers stand for; `none` if one of them is no byte. -/
def bytesOf? (block : List Int) : Option (List UInt8) :=
  if block.all fun n => 0 ≤ n && n ≤ 255 then some (block.map UInt8.ofInt) else none

/-- A block of numbers written from an address on.  The range is checked before the numbers. -/
def writeBlock (m : Memory) (location : Int) (block : List Int) : Except Failure Memory := do
  m.checkRange location block.length
  match bytesOf? block with
  | some bytes => return ⟨patch m.cells location.toNat bytes⟩
  | none => throw .notAByte

/-- A block loaded at an address: one that runs past the top is reported as too large to fit. -/
def load (m : Memory) (block : List Int) (location : Int) : Except Failure Memory := do
  m.checkRange location 1
  if location + block.length > m.size then
    throw (.machine (.programTooLarge block.length location m.top))
  m.writeBlock location block

/-- Zeros everywhere. -/
def clear (m : Memory) : Memory := blank m.size

/-! ## What each operation keeps and changes -/

@[simp] theorem size_blank (size : Nat) : (blank size).size = size := by
  simp [blank, Memory.size]

@[simp] theorem size_clear (m : Memory) : m.clear.size = m.size := by
  simp [clear]

/-- **An access passes exactly if it is in range.** -/
@[simp] theorem checkRange_eq_ok_iff {m : Memory} {location count : Int} :
    m.checkRange location count = .ok () ↔ m.InRange location count := by
  unfold checkRange
  split <;> simp_all

/-- An access out of range fails with its own description. -/
theorem checkRange_eq_error_iff {m : Memory} {location count : Int} {failure : Failure} :
    m.checkRange location count = .error failure ↔
      ¬m.InRange location count ∧ failure = .machine (.outOfBounds count location m.top) := by
  unfold checkRange
  split
  · next h => simp [h]
  · next h => simp [h, eq_comm]

/-- The bytes from an address on are the cells from there on. -/
theorem getElem?_bytesAt (m : Memory) (start count i : Nat) :
    (m.bytesAt start count)[i]? = if i < count then m.cells[start + i]? else none := by
  rw [bytesAt, Array.getElem?_toList, Array.getElem?_extract]
  by_cases hi : i < count
  · by_cases hs : start + i < m.cells.size
    · have h : i < min (start + count) m.cells.size - start := by omega
      rw [if_pos hi, if_pos h]
    · have h : ¬i < min (start + count) m.cells.size - start := by omega
      rw [if_pos hi, if_neg h, Array.getElem?_eq_none (by omega)]
  · have h : ¬i < min (start + count) m.cells.size - start := by omega
    rw [if_neg hi, if_neg h]

/-- There are no more bytes than asked for. -/
theorem length_bytesAt_le (m : Memory) (start count : Nat) :
    (m.bytesAt start count).length ≤ count := by
  rw [bytesAt, Array.length_toList, Array.size_extract]
  omega

/-- The first of the bytes from an address on is the one at that address. -/
theorem bytesAt_succ {m : Memory} {start : Nat} (count : Nat) (h : start < m.size) :
    m.bytesAt start (count + 1) = m.cells.getD start 0 :: m.bytesAt (start + 1) count := by
  refine List.ext_getElem? fun i => ?_
  rw [getElem?_bytesAt]
  cases i with
  | zero => simp [show start < m.cells.size from h]
  | succ i =>
    rw [List.getElem?_cons_succ, getElem?_bytesAt, Nat.add_right_comm, Nat.add_assoc]
    simp

/-- A read in range gives the bytes at its addresses. -/
theorem readBlock_of_inRange {m : Memory} {location : Int} {count : Nat}
    (h : m.InRange location count) :
    m.readBlock location count = .ok (m.bytesAt location.toNat count) := by
  have hend : (m.blockEnd location count).toNat = location.toNat + count := by
    obtain ⟨hlow, -⟩ := h
    rw [blockEnd, if_neg (by omega)]
    omega
  rw [readBlock, checkRange_eq_ok_iff.2 h, bytesAt, ← hend]
  rfl

/-- A read out of range fails. -/
theorem readBlock_of_not_inRange {m : Memory} {location count : Int}
    (h : ¬m.InRange location count) :
    m.readBlock location count = .error (.machine (.outOfBounds count location m.top)) := by
  rw [readBlock, checkRange_eq_error_iff.2 ⟨h, rfl⟩]
  rfl

/-- A write in range lays its bytes over the cells. -/
theorem writeBytes_of_inRange {m : Memory} {location : Int} {bytes : List UInt8}
    (h : m.InRange location bytes.length) :
    m.writeBytes location bytes = .ok ⟨patch m.cells location.toNat bytes⟩ := by
  rw [writeBytes, checkRange_eq_ok_iff.2 h]
  rfl

/-- A write out of range fails. -/
theorem writeBytes_of_not_inRange {m : Memory} {location : Int} {bytes : List UInt8}
    (h : ¬m.InRange location bytes.length) :
    m.writeBytes location bytes =
      .error (.machine (.outOfBounds bytes.length location m.top)) := by
  rw [writeBytes, checkRange_eq_error_iff.2 ⟨h, rfl⟩]
  rfl

/-- A patch keeps the number of cells. -/
@[simp] theorem size_patch (cells : Array UInt8) (start : Nat) (bytes : List UInt8) :
    (patch cells start bytes).size = cells.size := by
  induction bytes generalizing cells start with
  | nil => rfl
  | cons b rest ih => simp [patch, ih]

/-- **A patch changes exactly the cells that its bytes cover.** -/
theorem getElem?_patch (cells : Array UInt8) (start : Nat) (bytes : List UInt8) (i : Nat) :
    (patch cells start bytes)[i]? =
      if start ≤ i ∧ i < start + bytes.length ∧ i < cells.size then bytes[i - start]?
      else cells[i]? := by
  induction bytes generalizing cells start with
  | nil =>
    have h : ¬(start ≤ i ∧ i < start + ([] : List UInt8).length ∧ i < cells.size) := by
      simp only [List.length_nil]
      omega
    rw [if_neg h, patch]
  | cons b rest ih =>
    rw [patch, ih]
    by_cases hi : i = start
    · subst hi
      have hn : ¬(i + 1 ≤ i ∧ i < i + 1 + rest.length ∧ i < (cells.setIfInBounds i b).size) := by
        omega
      rw [if_neg hn]
      by_cases hs : i < cells.size <;> simp [hs]
    · by_cases hr : start + 1 ≤ i ∧ i < start + 1 + rest.length ∧ i < cells.size
      · have hl : start ≤ i ∧ i < start + (b :: rest).length ∧ i < cells.size := by
          simp only [List.length_cons]
          omega
        have he : i - start = (i - (start + 1)) + 1 := by omega
        rw [if_pos (by simpa using hr), if_pos hl, he]
        simp
      · have hl : ¬(start ≤ i ∧ i < start + (b :: rest).length ∧ i < cells.size) := by
          simp only [List.length_cons]
          omega
        rw [if_neg (by simpa using hr), if_neg hl, Array.getElem?_setIfInBounds_ne (Ne.symm hi)]

/-! ## Blocks of numbers -/

/-- A block is written exactly if it is in range and holds bytes only. -/
theorem writeBlock_eq_ok_iff {m next : Memory} {location : Int} {block : List Int} :
    m.writeBlock location block = .ok next ↔
      m.InRange location block.length ∧
        ∃ bytes, bytesOf? block = some bytes ∧ next = ⟨patch m.cells location.toNat bytes⟩ := by
  by_cases hrange : m.InRange location block.length
  · rw [writeBlock, checkRange_eq_ok_iff.2 hrange]
    rcases hbytes : bytesOf? block with _ | bytes
    · exact ⟨nofun, fun ⟨_, bytes, h, _⟩ => nomatch h⟩
    · constructor
      · intro h
        exact ⟨hrange, bytes, rfl, (Except.ok.inj h).symm⟩
      · rintro ⟨-, bytes', h, rfl⟩
        rw [Option.some.inj h]
        rfl
  · rw [writeBlock, checkRange_eq_error_iff.2 ⟨hrange, rfl⟩]
    exact ⟨nofun, fun h => absurd h.1 hrange⟩

/-- **A block is loaded exactly if it begins and ends in memory and holds bytes only.** -/
theorem load_eq_ok_iff {m next : Memory} {location : Int} {block : List Int} :
    m.load block location = .ok next ↔
      (0 ≤ location ∧ location < m.size ∧ location + block.length ≤ m.size) ∧
        ∃ bytes, bytesOf? block = some bytes ∧ next = ⟨patch m.cells location.toNat bytes⟩ := by
  by_cases hrange : m.InRange location 1
  · rw [load, checkRange_eq_ok_iff.2 hrange]
    obtain ⟨hlow, hhigh⟩ := hrange
    by_cases hfits : location + block.length > m.size
    · simp only [hfits, if_true]
      exact ⟨nofun, fun h => by omega⟩
    · have hblock : m.InRange location block.length := ⟨hlow, by omega⟩
      simp only [hfits, if_false]
      refine writeBlock_eq_ok_iff.trans (and_congr_left fun _ => ?_)
      exact ⟨fun _ => ⟨hlow, by omega, by omega⟩, fun _ => hblock⟩
  · rw [load, checkRange_eq_error_iff.2 ⟨hrange, rfl⟩]
    refine ⟨nofun, fun h => absurd ⟨h.1.1, ?_⟩ hrange⟩
    omega

/-- Bytes stand for themselves. -/
theorem bytesOf?_map_toNat (bytes : List UInt8) :
    bytesOf? (bytes.map fun b => (b.toNat : Int)) = some bytes := by
  have hall : (bytes.map fun b => (b.toNat : Int)).all (fun n => 0 ≤ n && n ≤ 255) = true := by
    rw [List.all_map, List.all_eq_true]
    intro b _
    have := b.toNat_lt
    simp only [Function.comp_apply, Bool.and_eq_true, decide_eq_true_eq]
    omega
  have hbyte : ∀ b : UInt8, UInt8.ofInt b.toNat = b := by
    intro b
    have hmod : ((b.toNat : Int) % 2 ^ 8).toNat = b.toNat := by
      have := b.toNat_lt
      omega
    rw [UInt8.ofInt, hmod, UInt8.ofNat_toNat]
  rw [bytesOf?, if_pos hall, List.map_map]
  exact congrArg some (List.map_id'' hbyte bytes)

end Memory

end ChipEight
