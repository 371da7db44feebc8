import ChipEight.Proofs.Instruction.Mnemonic
import ChipEight.Proofs.Machine.Effect

/-!
# Proofs/Machine/Dispatch — a word runs as the instruction it is shown as

What the table holds under a key may send the word on to another key, so a dispatch is a chain of
look-ups.  `LookUps` follows such a chain for as long as it goes on, whatever the table holds; that
it ends, and where, is then a fact about the table.

* `LookUps.eq_of_word`, `exists_lookUps` — the look-ups of a word are one or two, and end;
* `exists_run_eq_invalidOpcode_iff` — a machine refuses its word exactly if it is no instruction;
* `runOpcode_iff_disassemble` — **it refuses what is shown as nothing, and runs the rest as shown**.
-/

namespace ChipEight.Instruction

/-! ## Chains of look-ups -/

/-- **The look-ups of a word from a key on**: the keys in turn, and the instruction that is found. -/
inductive LookUps (opcode : Int) : Int → List Int → Option Instruction → Prop where
  /-- The table holds nothing. -/
  | missing {key : Int} (h : table.lookup key = none) : LookUps opcode key [key] none
  /-- The table holds an instruction. -/
  | found {key : Int} {build : Word → Instruction}
    (h : table.lookup key = some (.instruction build)) :
    LookUps opcode key [key] (some (build (Word.ofInt opcode)))
  /-- The word is to be looked up again, but may not be. -/
  | refused {key : Int} {selector : Selector} (h : table.lookup key = some (.family selector))
    (hnext : secondKey? selector opcode = none) : LookUps opcode key [key] none
  /-- The word is looked up again. -/
  | again {key next : Int} {selector : Selector} {keys : List Int} {result : Option Instruction}
    (h : table.lookup key = some (.family selector))
    (hnext : secondKey? selector opcode = some next)
    (hrest : LookUps opcode next keys result) : LookUps opcode key (key :: keys) result

/-- The instruction that the table holds under a key, with the operands of a word. -/
def instructionAt (key opcode : Int) : Option Instruction :=
  match table.lookup key with
  | some (.instruction build) => some (build (Word.ofInt opcode))
  | _ => none

/-- From a key of 16 or more, the look-ups are one. -/
theorem lookUps_iff_of_le {opcode key : Int} {keys : List Int} {result : Option Instruction}
    (hkey : 0x10 ≤ key) :
    LookUps opcode key keys result ↔ keys = [key] ∧ result = instructionAt key opcode := by
  unfold instructionAt
  constructor
  · intro h
    cases h with
    | missing h => simp only [h, and_self]
    | found h => simp only [h, and_self]
    | refused h hnext => exact absurd h (lookup_ne_family hkey _)
    | again h hnext hrest => exact absurd h (lookup_ne_family hkey _)
  · rintro ⟨rfl, rfl⟩
    split
    · next build h => exact .found h
    · next hnone =>
      rcases h : table.lookup key with _ | build | selector
      · exact .missing h
      · exact absurd h (hnone build)
      · exact absurd h (lookup_ne_family hkey selector)

/-- **A second look-up is under a key of 16 or more**, so it meets no entry of a first one. -/
theorem le_of_secondKey? {w : Word} {selector : Selector} {next : Int}
    (h : table.lookup (w.kind.val : Int) = some (.family selector))
    (hnext : secondKey? selector w.toNat = some next) : 0x10 ≤ next := by
  rw [secondKey?_toNat] at hnext
  split at hnext
  · nomatch hnext
  · next hlow =>
    obtain rfl := Option.some.inj hnext
    exact Int.ofNat_le.2 (le_key_of_family h hlow)

/-- **A word is looked up under its kind, and then at most once more**; what is found is what the
word decodes to. -/
theorem LookUps.eq_of_word {w : Word} {keys : List Int} {result : Option Instruction}
    (h : LookUps w.toNat w.kind.val keys result) :
    result = decode? w.toNat ∧
      (keys = [(w.kind.val : Int)] ∨
        ∃ next : Int, 0x10 ≤ next ∧ keys = [(w.kind.val : Int), next]) := by
  rw [decode?, Word.ofInt_toNat]
  cases h with
  | missing h => exact ⟨by simp only [h], .inl rfl⟩
  | found h => exact ⟨by simp only [h, Word.ofInt_toNat], .inl rfl⟩
  | refused h hnext => exact ⟨by simp only [h, hnext, Option.bind_none], .inl rfl⟩
  | @again _ next _ _ _ h hnext hrest =>
    have hkey := le_of_secondKey? h hnext
    obtain ⟨rfl, rfl⟩ := (lookUps_iff_of_le hkey).1 hrest
    refine ⟨?_, .inr ⟨next, hkey, rfl⟩⟩
    simp only [h, hnext, Option.bind_some]
    unfold instructionAt
    rcases table.lookup next with _ | build | other
    · rfl
    · exact congrArg (fun w => some (build w)) (Word.ofInt_toNat w)
    · rfl

/-- **The look-ups of a word end**, with what the word decodes to. -/
theorem exists_lookUps (w : Word) :
    ∃ keys, LookUps w.toNat w.kind.val keys (decode? w.toNat) := by
  have hends : ∃ keys result, LookUps w.toNat w.kind.val keys result := by
    rcases h : table.lookup (w.kind.val : Int) with _ | build | selector
    · exact ⟨_, _, .missing h⟩
    · exact ⟨_, _, .found h⟩
    · rcases hnext : secondKey? selector w.toNat with _ | next
      · exact ⟨_, _, .refused h hnext⟩
      · have hrest : LookUps w.toNat next [next] (instructionAt next w.toNat) :=
          (lookUps_iff_of_le (le_of_secondKey? h hnext)).2 ⟨rfl, rfl⟩
        exact ⟨_, _, .again h hnext hrest⟩
  obtain ⟨keys, result, h⟩ := hends
  obtain ⟨rfl, -⟩ := h.eq_of_word
  exact ⟨keys, h⟩

end ChipEight.Instruction

namespace ChipEight.Machine

open Instruction

/-! ## Words that are refused -/

/-- No instruction fails for being none. -/
theorem failure?_ne_invalidOpcode (m : Machine) (i : Instruction) (opcode address : Int)
    (report : String) : m.failure? i ≠ some (.machine (.invalidOpcode opcode address report)) := by
  cases i with
  | ret | call target | decimal x | save x | restore x =>
    simp only [failure?, accessFailure?]
    split <;> simp
  | draw x y rows =>
    simp only [failure?, accessFailure?]
    split
    · split <;> simp
    · simp
  | _ => simp [failure?]

/-- **A machine refuses its word exactly if the word is no instruction.** -/
theorem exists_run_eq_invalidOpcode_iff {m : Machine} :
    (∃ opcode address report left,
        runOpcode.run m = .error (.machine (.invalidOpcode opcode address report)) left) ↔
      decode? m.opcode = none := by
  constructor
  · rintro ⟨opcode, address, report, left, hrun⟩
    rcases h : decode? m.opcode with _ | i
    · rfl
    · rw [run_runOpcode_of_decode? h] at hrun
      exact absurd (run_execute_eq_error_iff.1 hrun).1 (failure?_ne_invalidOpcode m i _ _ _)
  · intro h
    exact ⟨_, _, _, m, run_runOpcode_of_decode?_eq_none h⟩

/-! ## Both tables agree -/

/-- **A machine refuses its word exactly if it is shown as nothing**; any other word runs as the
instruction that the first row of mnemonics it matches shows, and it matches no second row.  To find
the instruction takes one look-up or two, and the second is never under a key of a first one. -/
theorem runOpcode_iff_disassemble (m : Machine) (hlow : 0 ≤ m.opcode) (hhigh : m.opcode ≤ 0xFFFF) :
    ((∃ opcode address report left,
        runOpcode.run m = .error (.machine (.invalidOpcode opcode address report)) left) ↔
      disassemble m.opcode = unknown) ∧
    (disassemble m.opcode ≠ unknown →
      ∃ row i, mnemonics.find? (·.matches (Word.ofInt m.opcode)) = some row ∧
        (∀ other ∈ mnemonics, other.matches (Word.ofInt m.opcode) = true → other = row) ∧
        disassemble m.opcode = row.show (Word.ofInt m.opcode) ∧
        i.text = row.show (Word.ofInt m.opcode) ∧ decode? m.opcode = some i ∧
        runOpcode.run m = (execute i).run m) ∧
    (∃ keys, LookUps m.opcode (Word.ofInt m.opcode).kind.val keys (decode? m.opcode)) ∧
    ∀ keys result, LookUps m.opcode (Word.ofInt m.opcode).kind.val keys result →
      result = decode? m.opcode ∧ keys.length ≤ 2 ∧ ∀ key ∈ keys.tail, 0x10 ≤ key := by
  obtain ⟨w, hw⟩ : ∃ w : Word, m.opcode = w.toNat := by
    refine ⟨Word.ofInt m.opcode, ?_⟩
    rw [Word.toNat_ofInt]
    omega
  rw [exists_run_eq_invalidOpcode_iff, hw, Word.ofInt_toNat]
  refine ⟨disassemble_eq_unknown_iff.symm, fun hshown => ?_, exists_lookUps w, ?_⟩
  · obtain ⟨i, hi⟩ := Option.ne_none_iff_exists'.1 (mt disassemble_eq_unknown_iff.2 hshown)
    obtain ⟨row, hfind, hshow, htext⟩ := disassemble_of_decode? hi
    obtain ⟨hrow, hmatches⟩ := matches_of_find? hfind
    refine ⟨row, i, hfind, fun other hother h => ?_, hshow, htext.symm, hi, ?_⟩
    · exact matches_unique hother hrow h hmatches
    · exact run_runOpcode_of_decode? (hw ▸ hi)
  · intro keys result h
    obtain ⟨hresult, hkeys⟩ := h.eq_of_word
    refine ⟨hresult, ?_⟩
    rcases hkeys with rfl | ⟨next, hnext, rfl⟩
    · simp
    · simpa using hnext

/-- The word `8125` is shown as a subtraction, and runs as one; the word `000E`,
which would be a key of a first look-up, is refused. -/
theorem runOpcode_iff_disassemble_sub :
    let m : Machine := { ofParts ⟨#[]⟩ (.empty 16) .display [] false with opcode := 0x8125 }
    let refused : Machine := { m with opcode := 0x000E }
    (0 ≤ m.opcode ∧ m.opcode ≤ 0xFFFF) ∧ disassemble m.opcode = "SUB V1, V2" ∧
      (∃ i, i.text = "SUB V1, V2" ∧ runOpcode.run m = (execute i).run m) ∧
      (∃ opcode address report left,
        runOpcode.run refused = .error (.machine (.invalidOpcode opcode address report)) left) := by
  intro m refused
  have hlow : 0 ≤ m.opcode := by decide
  have hhigh : m.opcode ≤ 0xFFFF := by decide
  have hshown : disassemble m.opcode = "SUB V1, V2" := by decide +kernel
  have hunknown : disassemble refused.opcode = unknown := by decide +kernel
  refine ⟨⟨hlow, hhigh⟩, hshown, ?_, ?_⟩
  · obtain ⟨-, hruns, -⟩ := runOpcode_iff_disassemble m hlow hhigh
    obtain ⟨row, i, -, -, hrow, htext, -, hrun⟩ := hruns (by rw [hshown]; decide +kernel)
    exact ⟨i, by rw [htext, ← hrow, hshown], hrun⟩
  · exact (runOpcode_iff_disassemble refused (by decide) (by decide)).1.2 hunknown

end ChipEight.Machine
