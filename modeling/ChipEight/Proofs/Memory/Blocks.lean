import ChipEight.Memory

/-!
# Proofs/Memory/Blocks — a block is written and read as its bytes are, all or nothing

A block access is checked as a whole before it is carried out.  Byte by byte, an access that is in
range comes to the same; one that runs out of range on the way does not, as it leaves behind what it
has written by then.

* `bytesOf?_eq_some_iff` — which blocks hold bytes only;
* `bytesAt_patch`, `patch_bytesAt`, `bytesAt_patch_of_disjoint` — bytes laid over memory, and what is
  read there then;
* `run_writeEach` — bytes written one after the other;
* `block_accesses` — **block accesses are the byte accesses**, and fail with nothing changed.
-/

namespace ChipEight.Memory

variable {m : Memory} {location : Int} {start count : Nat} {bytes : List UInt8}

/-! ## Blocks of bytes -/

/-- A number from 0 to 255 is its own byte. -/
theorem toNat_ofInt_of_le {n : Int} (hlow : 0 ≤ n) (hhigh : n ≤ 255) :
    ((UInt8.ofInt n).toNat : Int) = n := by
  rw [UInt8.ofInt, UInt8.toNat_ofNat']
  omega

/-- **The blocks that hold bytes only** are those that bytes spell. -/
theorem bytesOf?_eq_some_iff {block : List Int} :
    bytesOf? block = some bytes ↔ block = bytes.map fun b => (b.toNat : Int) := by
  constructor
  · intro h
    rw [bytesOf?] at h
    split at h
    · next hall =>
      obtain rfl := Option.some.inj h
      simp only [List.all_eq_true, Bool.and_eq_true, decide_eq_true_eq] at hall
      rw [List.map_map]
      refine (List.map_id' block).symm.trans (List.map_congr_left fun n hn => ?_)
      obtain ⟨hlow, hhigh⟩ := hall n hn
      exact (toNat_ofInt_of_le hlow hhigh).symm
    · cases h
  · rintro rfl
    exact bytesOf?_map_toNat bytes

/-- A block holds bytes only if every number lies between 0 and 255. -/
theorem exists_bytesOf?_iff {block : List Int} :
    (∃ bytes, bytesOf? block = some bytes) ↔ ∀ n ∈ block, 0 ≤ n ∧ n ≤ 255 := by
  simp [bytesOf?]

/-! ## Bytes laid over memory -/

/-- The bytes read where others have been laid are those. -/
theorem bytesAt_patch (cells : Array UInt8) (h : start + bytes.length ≤ cells.size) :
    bytesAt ⟨patch cells start bytes⟩ start bytes.length = bytes := by
  refine List.ext_getElem? fun i => ?_
  rw [getElem?_bytesAt]
  by_cases hi : i < bytes.length
  · rw [if_pos hi, getElem?_patch, if_pos ⟨by omega, by omega, by omega⟩, Nat.add_sub_cancel_left]
  · rw [if_neg hi, List.getElem?_eq_none (Nat.le_of_not_lt hi)]

/-- Bytes laid where they have been read change nothing. -/
theorem patch_bytesAt (m : Memory) (start count : Nat) :
    patch m.cells start (m.bytesAt start count) = m.cells := by
  refine Array.ext_getElem? fun i => ?_
  rw [getElem?_patch]
  split
  · next h =>
    have hcount := m.length_bytesAt_le start count
    rw [getElem?_bytesAt, if_pos (by omega), Nat.add_sub_cancel' h.1]
  · rfl

/-- **Bytes read elsewhere are as before.** -/
theorem bytesAt_patch_of_disjoint (cells : Array UInt8) {other : Nat}
    (h : ∀ i < count, ∀ j < bytes.length, other + i ≠ start + j) :
    bytesAt ⟨patch cells start bytes⟩ other count = bytesAt ⟨cells⟩ other count := by
  refine List.ext_getElem? fun i => ?_
  rw [getElem?_bytesAt, getElem?_bytesAt]
  by_cases hi : i < count
  · rw [if_pos hi, if_pos hi, getElem?_patch, if_neg]
    rintro ⟨hlow, hhigh, -⟩
    exact h i hi (other + i - start) (by omega) (by omega)
  · rw [if_neg hi, if_neg hi]

/-- As many bytes are read as are asked for, if there are as many. -/
theorem length_bytesAt (h : start + count ≤ m.size) : (m.bytesAt start count).length = count := by
  have hsize : m.cells.size = m.size := rfl
  rw [bytesAt, Array.length_toList, Array.size_extract]
  omega

/-- A patched memory has the same addresses. -/
theorem inRange_patch {count : Int} :
    InRange ⟨patch m.cells start bytes⟩ location count ↔ m.InRange location count := by
  rw [InRange, InRange, size, size_patch]
  rfl

theorem top_patch : top ⟨patch m.cells start bytes⟩ = m.top := by
  rw [top, size, size_patch]
  rfl

/-! ## Reads -/

/-- A byte is read if its address is one of memory. -/
theorem readByte_of_inRange (h : m.InRange location 1) :
    m.readByte location = .ok (m.cells.getD location.toNat 0) := by
  rw [readByte, checkRange_eq_ok_iff.2 h]
  rfl

theorem readByte_of_not_inRange (h : ¬m.InRange location 1) :
    m.readByte location = .error (.machine (.outOfBounds 1 location m.top)) := by
  rw [readByte, checkRange_eq_error_iff.2 ⟨h, rfl⟩]
  rfl

/-- **The bytes of a block are those at its addresses**, one after the other. -/
theorem getElem?_bytesAt_eq_some_iff {i : Nat} {b : UInt8} (hlow : 0 ≤ location)
    (hhigh : location + count ≤ m.size) :
    (m.bytesAt location.toNat count)[i]? = some b ↔
      i < count ∧ m.readByte (location + i) = .ok b := by
  rw [getElem?_bytesAt]
  by_cases hi : i < count
  · have hplace : (location + i).toNat = location.toNat + i := by omega
    have hcell : location.toNat + i < m.cells.size := by
      have hsize : m.cells.size = m.size := rfl
      omega
    have hrange : m.InRange (location + i) 1 := ⟨by omega, by omega⟩
    rw [if_pos hi, readByte_of_inRange hrange, hplace, Array.getD_eq_getD_getElem?,
      Array.getElem?_eq_getElem hcell]
    simp [hi]
  · simp [hi]

/-- A byte read outside the bytes that have been laid is as before. -/
theorem readByte_patch_of_outside {address : Int} (hlow : 0 ≤ location)
    (h : address < location ∨ location + bytes.length ≤ address) :
    readByte ⟨patch m.cells location.toNat bytes⟩ address = m.readByte address := by
  by_cases hrange : m.InRange address 1
  · have hcell : ¬(location.toNat ≤ address.toNat ∧
        address.toNat < location.toNat + bytes.length ∧ address.toNat < m.cells.size) := by
      obtain ⟨haddress, -⟩ := hrange
      omega
    rw [readByte_of_inRange hrange, readByte_of_inRange (inRange_patch.2 hrange),
      Array.getD_eq_getD_getElem?, getElem?_patch, if_neg hcell, Array.getD_eq_getD_getElem?]
  · rw [readByte_of_not_inRange hrange,
      readByte_of_not_inRange (mt inRange_patch.1 hrange), top_patch]

/-- A block read outside the bytes that have been laid is as before, also one that is out of range. -/
theorem readBlock_patch_of_disjoint {other : Int} (hlow : 0 ≤ location)
    (h : ∀ i < count, ∀ j < bytes.length, other + i ≠ location + j) :
    readBlock ⟨patch m.cells location.toNat bytes⟩ other count = m.readBlock other count := by
  by_cases hrange : m.InRange other count
  · rw [readBlock_of_inRange hrange, readBlock_of_inRange (inRange_patch.2 hrange)]
    obtain ⟨hother, -⟩ := hrange
    refine congrArg Except.ok (bytesAt_patch_of_disjoint m.cells fun i hi j hj hplace => ?_)
    exact h i hi j hj (by omega)
  · rw [readBlock_of_not_inRange hrange,
      readBlock_of_not_inRange (mt inRange_patch.1 hrange), top_patch]

/-! ## Writes on a memory in use -/

/-- A write carried out on the memory in use: one that fails leaves that as it is. -/
def carryOut (write : Memory → Except Failure Memory) : EStateM Failure Memory Unit := do
  set (← attempt (write (← get)))

/-- The numbers of a block written one after the other, byte by byte. -/
def writeEach (location : Int) : List Int → EStateM Failure Memory Unit
  | [] => pure ()
  | n :: rest => do
    carryOut (·.writeByte location n)
    writeEach (location + 1) rest

theorem run_carryOut_of_ok {write : Memory → Except Failure Memory} {next : Memory}
    (h : write m = .ok next) : (carryOut write).run m = .ok () next := by
  simp only [carryOut, EStateM.run_bind, EStateM.run_get, h, run_attempt_ok, EStateM.run_set]

theorem run_carryOut_of_error {write : Memory → Except Failure Memory} {failure : Failure}
    (h : write m = .error failure) : (carryOut write).run m = .error failure m := by
  simp only [carryOut, EStateM.run_bind, EStateM.run_get, h, run_attempt_error]

/-- A byte in range is written as it is. -/
theorem writeByte_of_inRange (h : m.InRange location 1) (b : UInt8) :
    m.writeByte location b.toNat = .ok ⟨m.cells.setIfInBounds location.toNat b⟩ := by
  have hbyte : UInt8.ofInt b.toNat = b := UInt8.toNat_inj.1 (Int.ofNat_inj.1
    (toNat_ofInt_of_le (Int.natCast_nonneg _) (by have := b.toNat_lt; omega)))
  rw [writeByte, checkRange_eq_ok_iff.2 h, hbyte]
  rfl

/-- **Bytes written one after the other are laid over memory**, if all of them lie in it. -/
theorem run_writeEach (m : Memory) (bytes : List UInt8) (hlow : 0 ≤ location)
    (hhigh : location + bytes.length ≤ m.size) :
    (writeEach location (bytes.map fun b => (b.toNat : Int))).run m =
      .ok () ⟨patch m.cells location.toNat bytes⟩ := by
  induction bytes generalizing m location with
  | nil => rfl
  | cons b rest ih =>
    rw [List.length_cons] at hhigh
    have hrange : m.InRange location 1 := ⟨hlow, by omega⟩
    have hnext : (location + 1).toNat = location.toNat + 1 := by omega
    have hsize : (⟨m.cells.setIfInBounds location.toNat b⟩ : Memory).size = m.size :=
      Array.size_setIfInBounds
    rw [List.map_cons, writeEach, EStateM.run_bind, run_carryOut_of_ok (writeByte_of_inRange hrange b)]
    refine (ih _ (by omega) (by omega)).trans ?_
    rw [hnext, patch]

/-! ## Block accesses and byte accesses -/

/-- A block that is out of range is not written. -/
theorem writeBlock_of_not_inRange {block : List Int} (h : ¬m.InRange location block.length) :
    m.writeBlock location block =
      .error (.machine (.outOfBounds block.length location m.top)) := by
  rw [writeBlock, checkRange_eq_error_iff.2 ⟨h, rfl⟩]
  rfl

/-- A block in range that holds a number that is no byte is not written either. -/
theorem writeBlock_of_bytesOf?_eq_none {block : List Int} (h : m.InRange location block.length)
    (hbytes : bytesOf? block = none) : m.writeBlock location block = .error .notAByte := by
  rw [writeBlock, checkRange_eq_ok_iff.2 h, hbytes]
  rfl

/-- A block of bytes in range is laid over memory, just as if its bytes were written one by one. -/
theorem run_writeBlock_of_bytes (h : m.InRange location bytes.length) :
    let block := bytes.map fun b => (b.toNat : Int)
    let next : Memory := ⟨patch m.cells location.toNat bytes⟩
    (carryOut (·.writeBlock location block)).run m = .ok () next ∧
      (writeEach location block).run m = .ok () next := by
  intro block next
  have hlength : block.length = bytes.length := List.length_map _
  have hwrite : m.writeBlock location block = .ok next :=
    writeBlock_eq_ok_iff.2 ⟨hlength ▸ h, bytes, bytesOf?_map_toNat bytes, rfl⟩
  obtain ⟨hlow, hhigh⟩ := h
  exact ⟨run_carryOut_of_ok hwrite, run_writeEach m bytes hlow (by omega)⟩

/-- An access that does not lie in memory: it begins below the first address or ends above the last.
An access of no bytes counts as one of a single byte. -/
def Outside (m : Memory) (location count : Int) : Prop :=
  location < 0 ∨ m.size < location + max count 1

instance (m : Memory) (location count : Int) : Decidable (m.Outside location count) :=
  inferInstanceAs (Decidable (_ ∨ _))

theorem not_outside_iff {count : Int} : ¬m.Outside location count ↔ m.InRange location count := by
  rw [Outside, InRange]
  omega

/-- **A block is read exactly if it lies in memory.** -/
theorem readBlock_eq_outOfBounds_iff :
    m.readBlock location count = .error (.machine (.outOfBounds count location m.top)) ↔
      m.Outside location count := by
  by_cases hrange : m.InRange location count
  · rw [readBlock_of_inRange hrange]
    exact iff_of_false nofun (not_outside_iff.2 hrange)
  · exact iff_of_true (readBlock_of_not_inRange hrange)
      (Decidable.not_not.1 (mt not_outside_iff.1 hrange))

/-- **A block is checked before its numbers are looked at.** -/
theorem run_writeBlock_eq_outOfBounds_iff {block : List Int} :
    (carryOut (·.writeBlock location block)).run m =
        .error (.machine (.outOfBounds block.length location m.top)) m ↔
      m.Outside location block.length := by
  by_cases hrange : m.InRange location block.length
  · refine iff_of_false (fun herror => ?_) (not_outside_iff.2 hrange)
    rcases hbytes : bytesOf? block with _ | bytes
    · rw [run_carryOut_of_error (writeBlock_of_bytesOf?_eq_none hrange hbytes)] at herror
      nomatch herror
    · rw [run_carryOut_of_ok (writeBlock_eq_ok_iff.2 ⟨hrange, bytes, hbytes, rfl⟩)] at herror
      nomatch herror
  · exact iff_of_true (run_carryOut_of_error (writeBlock_of_not_inRange hrange))
      (Decidable.not_not.1 (mt not_outside_iff.1 hrange))

/-- A block in range that holds a number that is no byte leaves memory as it is. -/
theorem run_writeBlock_of_notAByte {block : List Int} (hrange : m.InRange location block.length)
    (hbad : ∃ n ∈ block, n < 0 ∨ 255 < n) :
    (carryOut (·.writeBlock location block)).run m = .error .notAByte m := by
  have hnone : bytesOf? block = none := Option.eq_none_iff_forall_ne_some.2 fun bytes hbytes => by
    obtain ⟨n, hn, hwrong⟩ := hbad
    have := exists_bytesOf?_iff.1 ⟨bytes, hbytes⟩ n hn
    omega
  exact run_carryOut_of_error (writeBlock_of_bytesOf?_eq_none hrange hnone)

/-- **Block accesses are the byte accesses, all or nothing.**  A block is not written, and memory is
left as it is, exactly if not all of it lies in memory or it holds a number that is no byte; the first
is looked at before the second.  Any other block leaves what its bytes leave, written one by one: the
size and all bytes outside it stay, it is read back as it was written, and reads of other addresses
give what they gave.  A block is read under the same condition, and is as long as asked for, with the
bytes at its addresses. -/
theorem block_accesses (m : Memory) (location : Int) :
    (∀ block : List Int,
      let written := (carryOut (·.writeBlock location block)).run m
      (written = .error (.machine (.outOfBounds block.length location m.top)) m ↔
        m.Outside location block.length) ∧
      (¬m.Outside location block.length → (∃ n ∈ block, n < 0 ∨ 255 < n) →
        written = .error .notAByte m) ∧
      (¬m.Outside location block.length → (∀ n ∈ block, 0 ≤ n ∧ n ≤ 255) →
        ∃ next, written = .ok () next ∧ (writeEach location block).run m = .ok () next ∧
          next.size = m.size ∧
          (∀ address, address < location ∨ location + block.length ≤ address →
            next.readByte address = m.readByte address) ∧
          (∃ bytes, next.readBlock location block.length = .ok bytes ∧
            block = bytes.map fun b => (b.toNat : Int)) ∧
          ∀ (other : Int) (count : Nat),
            (∀ i < count, ∀ j < block.length, other + i ≠ location + j) →
              next.readBlock other count = m.readBlock other count)) ∧
    ∀ count : Nat,
      (m.readBlock location count = .error (.machine (.outOfBounds count location m.top)) ↔
        m.Outside location count) ∧
      (¬m.Outside location count → ∃ bytes, m.readBlock location count = .ok bytes ∧
        bytes.length = count ∧
        ∀ i < count, ∃ b, bytes[i]? = some b ∧ m.readByte (location + i) = .ok b) := by
  refine ⟨fun block => ⟨run_writeBlock_eq_outOfBounds_iff, fun hin hbad => ?_, fun hin hbytes => ?_⟩,
    fun count => ⟨readBlock_eq_outOfBounds_iff, fun hin => ?_⟩⟩
  · exact run_writeBlock_of_notAByte (not_outside_iff.1 hin) hbad
  · obtain ⟨bytes, hspelled⟩ := exists_bytesOf?_iff.2 hbytes
    obtain rfl := bytesOf?_eq_some_iff.1 hspelled
    rw [not_outside_iff, List.length_map] at hin
    obtain ⟨hwritten, heach⟩ := run_writeBlock_of_bytes hin
    have hsize : m.cells.size = m.size := rfl
    have ⟨hlow, hhigh⟩ := hin
    simp only [List.length_map]
    refine ⟨_, hwritten, heach, size_patch _ _ _, fun address => readByte_patch_of_outside hlow,
      ⟨bytes, ?_, rfl⟩, fun other count => readBlock_patch_of_disjoint hlow⟩
    rw [readBlock_of_inRange (inRange_patch.2 hin), bytesAt_patch m.cells (by omega)]
  · rw [not_outside_iff] at hin
    have ⟨hlow, hhigh⟩ := hin
    have hlength : (m.bytesAt location.toNat count).length = count := length_bytesAt (by omega)
    refine ⟨_, readBlock_of_inRange hin, hlength, fun i hi => ?_⟩
    rw [← hlength] at hi
    have hbyte := List.getElem?_eq_getElem hi
    exact ⟨_, hbyte, ((getElem?_bytesAt_eq_some_iff hlow (by omega)).1 hbyte).2⟩

/-- Two bytes fit at the top of a memory of three, and are read back; one address further on nothing
is written, though the first of them would fit. -/
theorem block_accesses_top :
    let m : Memory := ⟨#[1, 2, 3]⟩
    (¬m.Outside 1 2 ∧ ∃ next, (carryOut (·.writeBlock 1 [7, 255])).run m = .ok () next ∧
      (writeEach 1 [7, 255]).run m = .ok () next ∧ next.readByte 0 = m.readByte 0) ∧
    m.Outside 2 2 ∧
      (carryOut (·.writeBlock 2 [7, 255])).run m = .error (.machine (.outOfBounds 2 2 2)) m ∧
      (writeEach 2 [7, 255]).run m = .error (.machine (.outOfBounds 1 3 2)) ⟨#[1, 2, 7]⟩ := by
  intro m
  have hfits : ¬m.Outside 1 2 := not_outside_iff.2 (by decide)
  have hover : m.Outside 2 2 := .inr (by decide)
  obtain ⟨-, -, hwrite⟩ := (block_accesses m 1).1 [7, 255]
  obtain ⟨next, hnext, heach, -, hother, -⟩ := hwrite hfits (by decide)
  obtain ⟨herror, -⟩ := (block_accesses m 2).1 [7, 255]
  exact ⟨⟨hfits, next, hnext, heach, hother 0 (.inl (by decide))⟩, hover, herror.2 hover, rfl⟩

end ChipEight.Memory
