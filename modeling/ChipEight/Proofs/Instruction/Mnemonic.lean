import Mathlib.Data.List.Nodup
import ChipEight.Instruction.Mnemonic
import ChipEight.Proofs.Instruction.Table

/-!
# Proofs/Instruction/Mnemonic — the dispatch table and the mnemonic table name the same words

The two tables are written apart: one sends a word through one look-up or two, the other is searched
row by row.  A few closed facts tie them together, each checked over the rows: the same digits
decide in both, no two rows of mnemonics have the same value, and every row has its entry, which
builds what the row shows.

* `matches_unique` — a word matches at most one row of mnemonics;
* `decode?_of_matches`, `exists_matches_of_decode?` — it matches one if it is an instruction;
* `disassemble_of_decode?`, `disassemble_eq_unknown_iff` — **it is shown as the instruction it is**.
-/

namespace ChipEight.Instruction

/-! ## The digits that decide -/

/-- The digits of a second look-up, where an entry asks for one. -/
def Entry.selector? : Entry → Option Selector
  | .instruction _ => none
  | .family selector => some selector

/-- The digits that decide which instruction a word of a kind is. -/
def deciding (kind : Digit) : Selector :=
  ((table.lookup (kind.val : Int)).bind Entry.selector?).getD .kind

/-- **The entry of a kind asks for a second look-up exactly if more digits than the kind decide**,
and by these digits. -/
theorem lookup_eq_family_iff {kind : Digit} {selector : Selector} :
    table.lookup (kind.val : Int) = some (.family selector) ↔
      deciding kind = selector ∧ selector ≠ .kind := by
  have hkinds : ∀ kind : Digit,
      (table.lookup (kind.val : Int)).bind Entry.selector? ≠ some .kind := by
    decide
  have hkind := hkinds kind
  rw [deciding]
  generalize table.lookup (kind.val : Int) = found at hkind ⊢
  rcases found with _ | build | other
  · exact ⟨nofun, fun ⟨h, hne⟩ => absurd h.symm hne⟩
  · exact ⟨nofun, fun ⟨h, hne⟩ => absurd h.symm hne⟩
  · constructor
    · rintro ⟨⟩
      exact ⟨rfl, fun h => hkind (h ▸ rfl)⟩
    · rintro ⟨rfl, -⟩
      rfl

/-- The digits that decide begin with the kind. -/
theorem key_div (selector : Selector) (w : Word) : selector.key w / 0x1000 = w.kind := by
  obtain ⟨kind, x, y, n⟩ := w
  cases selector with
  | kind | ends | allButX | whole =>
    simp only [Selector.key, Word.toNat]
    omega

/-- **A second look-up never meets a key of the first**: where a kind asks for one, the word is
refused or its key is 16 or more. -/
theorem le_key_of_family {w : Word} {selector : Selector}
    (h : table.lookup (w.kind.val : Int) = some (.family selector))
    (hlow : ¬(selector = .whole ∧ w.toNat < 0x10)) : 0x10 ≤ selector.key w := by
  have hkinds : ∀ kind : Digit, deciding kind = .whole ∨ deciding kind = .kind ∨ 5 ≤ kind.val := by
    decide
  obtain ⟨hselector, hkind⟩ := lookup_eq_family_iff.1 h
  have hdigits := key_div selector w
  rcases hkinds w.kind with hwhole | hfirst | hhigh
  · obtain rfl := hselector.symm.trans hwhole
    have hword : Selector.whole.key w = w.toNat := rfl
    simp only [true_and] at hlow
    omega
  · exact absurd (hselector.symm.trans hfirst) hkind
  · omega

/-! ## The rows of mnemonics -/

/-- The key under which the dispatch table holds what a row of mnemonics shows. -/
def Mnemonic.key (row : Mnemonic) : Nat :=
  if row.selector = .kind then row.value / 0x1000 else row.value

/-- Whether an entry is an instruction. -/
def Entry.isInstruction : Entry → Bool
  | .instruction _ => true
  | .family _ => false

/-- A row of mnemonics lets the same digits decide as the dispatch table. -/
theorem selector_of_mem : ∀ row ∈ mnemonics, ∀ kind : Digit,
    row.value / 0x1000 = kind.val → row.selector = deciding kind := by
  decide

/-- No two rows of mnemonics have the same value. -/
theorem nodup_values : (mnemonics.map Mnemonic.value).Nodup := by
  decide

/-- Where the kind decides, the value says no more; elsewhere it is no key of a first look-up. -/
theorem value_of_mem : ∀ row ∈ mnemonics,
    (row.selector = .kind ∧ row.value = 0x1000 * row.key ∧ row.key < 0x10) ∨
      (row.selector ≠ .kind ∧ row.value = row.key ∧ 0x10 ≤ row.key) := by
  decide

/-- Every instruction in the dispatch table has its row of mnemonics. -/
theorem exists_mem_of_isInstruction : ∀ entry ∈ table, entry.2.isInstruction = true →
    ∃ row ∈ mnemonics, (row.key : Int) = entry.1 := by
  decide

/-- **The dispatch table holds under the key of a row what the row shows.** -/
theorem exists_build_of_mem {row : Mnemonic} (h : row ∈ mnemonics) :
    ∃ build, table.lookup (row.key : Int) = some (.instruction build) ∧
      ∀ w, (build w).text = row.show w := by
  simp only [mnemonics, List.mem_cons, List.not_mem_nil, or_false] at h
  rcases h with rfl | rfl | rfl | rfl | rfl | rfl | rfl | rfl | rfl | rfl | rfl | rfl | rfl | rfl |
    rfl | rfl | rfl | rfl | rfl | rfl | rfl | rfl | rfl | rfl | rfl | rfl | rfl | rfl | rfl | rfl |
    rfl | rfl | rfl | rfl
  all_goals
    refine ⟨_, rfl, fun w => ?_⟩
    simp [Mnemonic.show, Piece.show, text, register, addressText, byteText, String.append_assoc]
  -- the text of a drawing runs a comma and the mark of a number together
  rw [← String.append_assoc]
  rfl

/-! ## Matching rows -/

theorem matches_iff {row : Mnemonic} {w : Word} :
    row.matches w = true ↔ row.selector.key w = row.value :=
  beq_iff_eq

/-- A row that a word matches lets the deciding digits of the word decide. -/
theorem selector_of_matches {row : Mnemonic} {w : Word} (hrow : row ∈ mnemonics)
    (h : row.matches w = true) : row.selector = deciding w.kind := by
  refine selector_of_mem row hrow w.kind ?_
  rw [← matches_iff.1 h, key_div]

/-- **A word matches at most one row of mnemonics.** -/
theorem matches_unique {row other : Mnemonic} {w : Word} (hrow : row ∈ mnemonics)
    (hother : other ∈ mnemonics) (h : row.matches w = true) (h' : other.matches w = true) :
    row = other := by
  refine List.inj_on_of_nodup_map nodup_values hrow hother ?_
  rw [← matches_iff.1 h, ← matches_iff.1 h', selector_of_matches hrow h,
    selector_of_matches hother h']

/-- The row that is found is one that the word matches. -/
theorem matches_of_find? {row : Mnemonic} {w : Word}
    (h : mnemonics.find? (·.matches w) = some row) : row ∈ mnemonics ∧ row.matches w = true :=
  ⟨List.mem_of_find?_eq_some h, List.find?_some (p := fun row : Mnemonic => row.matches w) h⟩

/-- **The first row that a word matches is any that it matches.** -/
theorem find?_matches_eq_some_iff {row : Mnemonic} {w : Word} :
    mnemonics.find? (·.matches w) = some row ↔ row ∈ mnemonics ∧ row.matches w = true := by
  refine ⟨matches_of_find?, fun ⟨hrow, h⟩ => ?_⟩
  have hsome : (mnemonics.find? (·.matches w)).isSome := List.find?_isSome.2 ⟨row, hrow, h⟩
  obtain ⟨first, hfirst⟩ := Option.isSome_iff_exists.1 hsome
  obtain ⟨hmem, hmatches⟩ := matches_of_find? hfirst
  rw [hfirst, matches_unique hmem hrow hmatches h]

/-! ## Rows and instructions -/

/-- **A word that matches a row is the instruction under the key of the row.** -/
theorem decode?_of_matches {row : Mnemonic} {w : Word} {build : Word → Instruction}
    (hrow : row ∈ mnemonics) (h : row.matches w = true)
    (hbuild : table.lookup (row.key : Int) = some (.instruction build)) :
    decode? w.toNat = some (build w) := by
  have hvalue := matches_iff.1 h
  rcases value_of_mem row hrow with ⟨hkind, heq, -⟩ | ⟨hkind, heq, hkey⟩
  · have hdiv := key_div row.selector w
    obtain hfirst : row.key = w.kind.val := by omega
    rw [hfirst] at hbuild
    rw [decode?, Word.ofInt_toNat]
    simp only [hbuild]
  · have hfamily := lookup_eq_family_iff.2 ⟨(selector_of_matches hrow h).symm, hkind⟩
    rw [heq] at hvalue
    rw [← hvalue] at hbuild hkey
    refine (decode?_of_family hfamily).2 ⟨?_, build, hbuild, rfl⟩
    rintro ⟨hwhole, hlow⟩
    rw [hwhole] at hkey
    exact absurd hlow (Nat.not_lt.2 hkey)

/-- **A word that is an instruction matches a row.** -/
theorem exists_matches_of_decode? {w : Word} {i : Instruction} (h : decode? w.toNat = some i) :
    ∃ row ∈ mnemonics, row.matches w = true := by
  have hmem {key : Int} {build : Word → Instruction}
      (hlookup : table.lookup key = some (.instruction build)) :
      ∃ row ∈ mnemonics, (row.key : Int) = key := by
    obtain ⟨before, after, htable, -⟩ := List.lookup_eq_some_iff.1 hlookup
    exact exists_mem_of_isInstruction (key, .instruction build) (by simp [htable]) rfl
  rcases hkind : table.lookup (w.kind.val : Int) with _ | build | selector
  · rw [decode?, Word.ofInt_toNat] at h
    simp only [hkind] at h
    cases h
  · obtain ⟨row, hrow, hkey⟩ := hmem hkind
    refine ⟨row, hrow, matches_iff.2 ?_⟩
    rcases value_of_mem row hrow with ⟨hselector, hvalue, -⟩ | ⟨-, -, hlarge⟩
    · rw [hselector, hvalue, Selector.key]
      omega
    · omega
  · obtain ⟨hlow, build, hbuild, -⟩ := (decode?_of_family hkind).1 h
    have hlarge := le_key_of_family hkind hlow
    obtain ⟨row, hrow, hkey⟩ := hmem hbuild
    refine ⟨row, hrow, matches_iff.2 ?_⟩
    rcases value_of_mem row hrow with ⟨-, -, hsmall⟩ | ⟨-, hvalue, -⟩
    · omega
    · have hdigits := key_div selector w
      have hselector : row.selector = deciding w.kind := selector_of_mem row hrow w.kind (by omega)
      rw [hselector, (lookup_eq_family_iff.1 hkind).1]
      omega

/-- No instruction reads as what is shown of a word that is none. -/
theorem text_ne_unknown (i : Instruction) : i.text ≠ unknown := by
  have hfirst : i.text.toList.head? ≠ some '?' := by
    cases i <;> simp [text]
  intro h
  exact hfirst (by rw [h]; rfl)

/-- **A word is shown as the instruction it is.** -/
theorem disassemble_of_decode? {w : Word} {i : Instruction} (h : decode? w.toNat = some i) :
    ∃ row, mnemonics.find? (·.matches w) = some row ∧ disassemble w.toNat = row.show w ∧
      row.show w = i.text := by
  obtain ⟨row, hrow, hmatches⟩ := exists_matches_of_decode? h
  obtain ⟨build, hbuild, htext⟩ := exists_build_of_mem hrow
  have hi := decode?_of_matches hrow hmatches hbuild
  obtain rfl : build w = i := Option.some.inj (hi.symm.trans h)
  have hfind := find?_matches_eq_some_iff.2 ⟨hrow, hmatches⟩
  refine ⟨row, hfind, ?_, (htext w).symm⟩
  rw [disassemble, Word.ofInt_toNat]
  simp only [hfind]

/-- **A word that is no instruction is shown as none**, and no other. -/
theorem disassemble_eq_unknown_iff {w : Word} :
    disassemble w.toNat = unknown ↔ decode? w.toNat = none := by
  rcases h : decode? w.toNat with _ | i
  · have hfind : mnemonics.find? (·.matches w) = none := by
      rw [List.find?_eq_none]
      intro row hrow hmatches
      obtain ⟨build, hbuild, -⟩ := exists_build_of_mem hrow
      rw [decode?_of_matches hrow hmatches hbuild] at h
      nomatch h
    rw [disassemble, Word.ofInt_toNat]
    simp only [hfind]
  · obtain ⟨row, -, hshown, htext⟩ := disassemble_of_decode? h
    rw [hshown, htext]
    exact ⟨fun hunknown => absurd hunknown (text_ne_unknown i), nofun⟩

end ChipEight.Instruction
