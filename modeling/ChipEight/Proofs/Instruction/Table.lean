import ChipEight.Instruction.Dispatch

/-!
# Proofs/Instruction/Table — the instruction table, and the look-ups that read it

`Row w i` is the table as a manual prints it: one row an instruction, its fixed digits spelled out,
its operands wherever the row leaves a digit open.

* `decode?_eq_some_iff` — two look-ups find the instruction of the row that a word matches;
* `decode?_eq_none_iff` — …and find nothing exactly if it matches no row;
* `Row.unique` — a word matches at most one row.
-/

namespace ChipEight.Instruction

/-! ## The table -/

/-- **The instruction table**: the word `w` is the instruction `i`. -/
inductive Row : Word → Instruction → Prop where
  | clear : Row ⟨0x0, 0x0, 0xE, 0x0⟩ .clear
  | ret : Row ⟨0x0, 0x0, 0xE, 0xE⟩ .ret
  | jump (x y n : Digit) : Row ⟨0x1, x, y, n⟩ (.jump (Word.address ⟨0x1, x, y, n⟩))
  | call (x y n : Digit) : Row ⟨0x2, x, y, n⟩ (.call (Word.address ⟨0x2, x, y, n⟩))
  | skipIfByte (x y n : Digit) : Row ⟨0x3, x, y, n⟩ (.skipIfByte x (Word.byte ⟨0x3, x, y, n⟩))
  | skipUnlessByte (x y n : Digit) :
    Row ⟨0x4, x, y, n⟩ (.skipUnlessByte x (Word.byte ⟨0x4, x, y, n⟩))
  | skipIfEqual (x y : Digit) : Row ⟨0x5, x, y, 0x0⟩ (.skipIfEqual x y)
  | setByte (x y n : Digit) : Row ⟨0x6, x, y, n⟩ (.setByte x (Word.byte ⟨0x6, x, y, n⟩))
  | addByte (x y n : Digit) : Row ⟨0x7, x, y, n⟩ (.addByte x (Word.byte ⟨0x7, x, y, n⟩))
  | copy (x y : Digit) : Row ⟨0x8, x, y, 0x0⟩ (.copy x y)
  | bitOr (x y : Digit) : Row ⟨0x8, x, y, 0x1⟩ (.bitOr x y)
  | bitAnd (x y : Digit) : Row ⟨0x8, x, y, 0x2⟩ (.bitAnd x y)
  | bitXor (x y : Digit) : Row ⟨0x8, x, y, 0x3⟩ (.bitXor x y)
  | add (x y : Digit) : Row ⟨0x8, x, y, 0x4⟩ (.add x y)
  | sub (x y : Digit) : Row ⟨0x8, x, y, 0x5⟩ (.sub x y)
  | shiftRight (x y : Digit) : Row ⟨0x8, x, y, 0x6⟩ (.shiftRight x)
  | subFrom (x y : Digit) : Row ⟨0x8, x, y, 0x7⟩ (.subFrom x y)
  | shiftLeft (x y : Digit) : Row ⟨0x8, x, y, 0xE⟩ (.shiftLeft x)
  | skipUnlessEqual (x y : Digit) : Row ⟨0x9, x, y, 0x0⟩ (.skipUnlessEqual x y)
  | setIndex (x y n : Digit) : Row ⟨0xA, x, y, n⟩ (.setIndex (Word.address ⟨0xA, x, y, n⟩))
  | jumpOffset (x y n : Digit) : Row ⟨0xB, x, y, n⟩ (.jumpOffset (Word.address ⟨0xB, x, y, n⟩))
  | random (x y n : Digit) : Row ⟨0xC, x, y, n⟩ (.random x (Word.byte ⟨0xC, x, y, n⟩))
  | draw (x y n : Digit) : Row ⟨0xD, x, y, n⟩ (.draw x y n)
  | skipIfKey (x : Digit) : Row ⟨0xE, x, 0x9, 0xE⟩ (.skipIfKey x)
  | skipUnlessKey (x : Digit) : Row ⟨0xE, x, 0xA, 0x1⟩ (.skipUnlessKey x)
  | getDelay (x : Digit) : Row ⟨0xF, x, 0x0, 0x7⟩ (.getDelay x)
  | awaitKey (x : Digit) : Row ⟨0xF, x, 0x0, 0xA⟩ (.awaitKey x)
  | setDelay (x : Digit) : Row ⟨0xF, x, 0x1, 0x5⟩ (.setDelay x)
  | setSound (x : Digit) : Row ⟨0xF, x, 0x1, 0x8⟩ (.setSound x)
  | addIndex (x : Digit) : Row ⟨0xF, x, 0x1, 0xE⟩ (.addIndex x)
  | glyph (x : Digit) : Row ⟨0xF, x, 0x2, 0x9⟩ (.glyph x)
  | decimal (x : Digit) : Row ⟨0xF, x, 0x3, 0x3⟩ (.decimal x)
  | save (x : Digit) : Row ⟨0xF, x, 0x5, 0x5⟩ (.save x)
  | restore (x : Digit) : Row ⟨0xF, x, 0x6, 0x5⟩ (.restore x)

/-! ## The look-ups find every row -/

/-- The digits of a word that decide are read off its number. -/
theorem secondKey?_toNat (selector : Selector) (w : Word) :
    secondKey? selector w.toNat =
      if selector = .whole ∧ w.toNat < 0x10 then none else some (selector.key w : Int) := by
  unfold secondKey?
  rw [Word.ofInt_toNat]
  by_cases hs : selector = .whole
  · subst hs
    by_cases hw : w.toNat < 0x10
    · have hw' : (w.toNat : Int) < 0x10 := by omega
      simp [hw, hw']
    · have hw' : ¬(w.toNat : Int) < 0x10 := by omega
      simp [hw, hw', Selector.key]
  · simp [hs]

/-- A word of any other kind is decoded by the entry under the digits that decide. -/
theorem decode?_of_family {w : Word} {selector : Selector} {i : Instruction}
    (h : table.lookup (w.kind.val : Int) = some (.family selector)) :
    decode? w.toNat = some i ↔
      ¬(selector = .whole ∧ w.toNat < 0x10) ∧
        ∃ build, table.lookup (selector.key w : Int) = some (.instruction build) ∧ build w = i := by
  rw [decode?, Word.ofInt_toNat]
  simp only [h]
  rw [secondKey?_toNat]
  by_cases hs : selector = .whole ∧ w.toNat < 0x10
  · simp [hs]
  · rw [if_neg hs, Option.bind_some]
    rcases table.lookup (selector.key w : Int) with _ | ⟨build⟩ | selector'
    · simp
    · simp [hs]
    · simp

/-- **Every row is found.** -/
theorem decode?_of_row {w : Word} {i : Instruction} (h : Row w i) : decode? w.toNat = some i := by
  cases h with
  | clear | ret => rfl
  | jump | call | skipIfByte | skipUnlessByte | setByte | addByte | setIndex | jumpOffset | random
  | draw =>
    rw [decode?, Word.ofInt_toNat]
    rfl
  | skipIfEqual | copy | bitOr | bitAnd | bitXor | add | sub | shiftRight | subFrom | shiftLeft
  | skipUnlessEqual =>
    exact (decode?_of_family rfl).2 ⟨by simp, _, rfl, rfl⟩
  | skipIfKey | skipUnlessKey | getDelay | awaitKey | setDelay | setSound | addIndex | glyph
  | decimal | save | restore =>
    exact (decode?_of_family rfl).2 ⟨by simp, _, rfl, rfl⟩

/-! ## The look-ups find nothing else -/

/-- What a look-up finds stands under its key. -/
theorem mem_keys_of_lookup {key : Int} {entry : Entry} (h : table.lookup key = some entry) :
    key ∈ table.map Prod.fst := by
  obtain ⟨before, after, htable, -⟩ := List.lookup_eq_some_iff.1 h
  rw [htable]
  simp

/-- Two digits are read off the number that they spell. -/
theorem digits_eq {y n b c : Digit} (h : 0x10 * y.val + n.val = 0x10 * b.val + c.val) :
    y = b ∧ n = c :=
  ⟨Fin.ext (by omega), Fin.ext (by omega)⟩

/-- The rows of kind 0: all digits decide, and a word below 16 is refused. -/
theorem row_of_lookup_whole {x y n : Digit} {build : Word → Instruction}
    (hlow : ¬(⟨0x0, x, y, n⟩ : Word).toNat < 0x10)
    (h : table.lookup (Selector.whole.key ⟨0x0, x, y, n⟩ : Int) = some (.instruction build)) :
    Row ⟨0x0, x, y, n⟩ (build ⟨0x0, x, y, n⟩) := by
  have hkeys : ∀ key ∈ table.map Prod.fst, 0x10 ≤ key → key < 0x1000 → key = 0xE0 ∨ key = 0xEE := by
    decide
  have hkey := hkeys _ (mem_keys_of_lookup h)
  simp only [Selector.key, Word.toNat] at hlow hkey
  have hx : x = 0 := Fin.ext (by omega)
  subst hx
  rcases hkey (by omega) (by omega) with hk | hk
  · obtain ⟨rfl, rfl⟩ : y = 0xE ∧ n = 0x0 := digits_eq (by omega)
    cases h
    exact .clear
  · obtain ⟨rfl, rfl⟩ : y = 0xE ∧ n = 0xE := digits_eq (by omega)
    cases h
    exact .ret

/-- The rows of kinds 5, 8 and 9: the first digit and the last decide. -/
theorem row_of_lookup_ends {kind x y n : Digit} {build : Word → Instruction}
    (hkind : kind = 0x5 ∨ kind = 0x8 ∨ kind = 0x9)
    (h : table.lookup (Selector.ends.key ⟨kind, x, y, n⟩ : Int) = some (.instruction build)) :
    Row ⟨kind, x, y, n⟩ (build ⟨kind, x, y, n⟩) := by
  have hkeys : ∀ key ∈ table.map Prod.fst, 0x5000 ≤ key → key < 0xA000 →
      key ∈ [0x5000, 0x8000, 0x8001, 0x8002, 0x8003, 0x8004, 0x8005, 0x8006, 0x8007, 0x800E,
        0x9000] := by
    decide
  have hkey := hkeys _ (mem_keys_of_lookup h)
  simp only [Selector.key, List.mem_cons, List.not_mem_nil, or_false] at hkey
  rcases hkind with rfl | rfl | rfl
  · obtain rfl : n = 0x0 := Fin.ext (by omega)
    cases h
    exact .skipIfEqual x y
  · rcases hkey (by omega) (by omega) with hk | hk | hk | hk | hk | hk | hk | hk | hk | hk | hk
    · omega
    · obtain rfl : n = 0x0 := Fin.ext (by omega)
      cases h
      exact .copy x y
    · obtain rfl : n = 0x1 := Fin.ext (by omega)
      cases h
      exact .bitOr x y
    · obtain rfl : n = 0x2 := Fin.ext (by omega)
      cases h
      exact .bitAnd x y
    · obtain rfl : n = 0x3 := Fin.ext (by omega)
      cases h
      exact .bitXor x y
    · obtain rfl : n = 0x4 := Fin.ext (by omega)
      cases h
      exact .add x y
    · obtain rfl : n = 0x5 := Fin.ext (by omega)
      cases h
      exact .sub x y
    · obtain rfl : n = 0x6 := Fin.ext (by omega)
      cases h
      exact .shiftRight x y
    · obtain rfl : n = 0x7 := Fin.ext (by omega)
      cases h
      exact .subFrom x y
    · obtain rfl : n = 0xE := Fin.ext (by omega)
      cases h
      exact .shiftLeft x y
    · omega
  · obtain rfl : n = 0x0 := Fin.ext (by omega)
    cases h
    exact .skipUnlessEqual x y

/-- The rows of kinds E and F: all digits but the second decide. -/
theorem row_of_lookup_allButX {kind x y n : Digit} {build : Word → Instruction}
    (hkind : kind = 0xE ∨ kind = 0xF)
    (h : table.lookup (Selector.allButX.key ⟨kind, x, y, n⟩ : Int) = some (.instruction build)) :
    Row ⟨kind, x, y, n⟩ (build ⟨kind, x, y, n⟩) := by
  have hkeys : ∀ key ∈ table.map Prod.fst, 0xE000 ≤ key →
      key ∈ [0xE09E, 0xE0A1, 0xF007, 0xF00A, 0xF015, 0xF018, 0xF01E, 0xF029, 0xF033, 0xF055,
        0xF065] := by
    decide
  have hkey := hkeys _ (mem_keys_of_lookup h)
  simp only [Selector.key, List.mem_cons, List.not_mem_nil, or_false] at hkey
  rcases hkind with rfl | rfl
  · rcases hkey (by omega) with hk | hk | hk | hk | hk | hk | hk | hk | hk | hk | hk
    · obtain ⟨rfl, rfl⟩ : y = 0x9 ∧ n = 0xE := digits_eq (by omega)
      cases h
      exact .skipIfKey x
    · obtain ⟨rfl, rfl⟩ : y = 0xA ∧ n = 0x1 := digits_eq (by omega)
      cases h
      exact .skipUnlessKey x
    all_goals omega
  · rcases hkey (by omega) with hk | hk | hk | hk | hk | hk | hk | hk | hk | hk | hk
    · omega
    · omega
    · obtain ⟨rfl, rfl⟩ : y = 0x0 ∧ n = 0x7 := digits_eq (by omega)
      cases h
      exact .getDelay x
    · obtain ⟨rfl, rfl⟩ : y = 0x0 ∧ n = 0xA := digits_eq (by omega)
      cases h
      exact .awaitKey x
    · obtain ⟨rfl, rfl⟩ : y = 0x1 ∧ n = 0x5 := digits_eq (by omega)
      cases h
      exact .setDelay x
    · obtain ⟨rfl, rfl⟩ : y = 0x1 ∧ n = 0x8 := digits_eq (by omega)
      cases h
      exact .setSound x
    · obtain ⟨rfl, rfl⟩ : y = 0x1 ∧ n = 0xE := digits_eq (by omega)
      cases h
      exact .addIndex x
    · obtain ⟨rfl, rfl⟩ : y = 0x2 ∧ n = 0x9 := digits_eq (by omega)
      cases h
      exact .glyph x
    · obtain ⟨rfl, rfl⟩ : y = 0x3 ∧ n = 0x3 := digits_eq (by omega)
      cases h
      exact .decimal x
    · obtain ⟨rfl, rfl⟩ : y = 0x5 ∧ n = 0x5 := digits_eq (by omega)
      cases h
      exact .save x
    · obtain ⟨rfl, rfl⟩ : y = 0x6 ∧ n = 0x5 := digits_eq (by omega)
      cases h
      exact .restore x

/-- **Only rows are found.** -/
theorem row_of_decode? {w : Word} {i : Instruction} (h : decode? w.toNat = some i) : Row w i := by
  obtain ⟨kind, x, y, n⟩ := w
  have hkinds : ∀ kind : Digit, kind = 0x0 ∨ (kind = 0x5 ∨ kind = 0x8 ∨ kind = 0x9) ∨
      (kind = 0xE ∨ kind = 0xF) ∨ kind ∈ [0x1, 0x2, 0x3, 0x4, 0x6, 0x7, 0xA, 0xB, 0xC, 0xD] := by
    decide
  rcases hkinds kind with rfl | hkind | hkind | hkind
  · obtain ⟨hlow, build, hbuild, rfl⟩ := (decode?_of_family rfl).1 h
    exact row_of_lookup_whole (fun hw => hlow ⟨rfl, hw⟩) hbuild
  · have hfamily : table.lookup (kind.val : Int) = some (.family .ends) := by
      rcases hkind with rfl | rfl | rfl <;> rfl
    obtain ⟨-, build, hbuild, rfl⟩ := (decode?_of_family hfamily).1 h
    exact row_of_lookup_ends hkind hbuild
  · have hfamily : table.lookup (kind.val : Int) = some (.family .allButX) := by
      rcases hkind with rfl | rfl <;> rfl
    obtain ⟨-, build, hbuild, rfl⟩ := (decode?_of_family hfamily).1 h
    exact row_of_lookup_allButX hkind hbuild
  · rw [decode?, Word.ofInt_toNat] at h
    simp only [List.mem_cons, List.not_mem_nil, or_false] at hkind
    rcases hkind with rfl | rfl | rfl | rfl | rfl | rfl | rfl | rfl | rfl | rfl <;> cases h <;>
      constructor

/-- **The look-ups read the instruction table.** -/
theorem decode?_eq_some_iff {w : Word} {i : Instruction} : decode? w.toNat = some i ↔ Row w i :=
  ⟨row_of_decode?, decode?_of_row⟩

instance (w : Word) (i : Instruction) : Decidable (Row w i) :=
  decidable_of_iff _ decode?_eq_some_iff

/-- No instruction is found exactly if the word matches no row. -/
theorem decode?_eq_none_iff {w : Word} : decode? w.toNat = none ↔ ∀ i, ¬Row w i := by
  rw [Option.eq_none_iff_forall_ne_some]
  exact forall_congr' fun i => not_congr decode?_eq_some_iff

/-- A word matches at most one row. -/
theorem Row.unique {w : Word} {i j : Instruction} (hi : Row w i) (hj : Row w j) : i = j :=
  Option.some.inj ((decode?_of_row hi).symm.trans (decode?_of_row hj))

end ChipEight.Instruction
