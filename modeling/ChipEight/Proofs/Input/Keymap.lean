import Mathlib.Data.List.Forall2
import ChipEight.Keymap

/-!
# Proofs/Input/Keymap — which texts are keymaps, and what they say

A keymap is read field by field, and a field is refused if its code has been read before.

* `lowerCode_eq_ok_iff`, `lowerCode_eq_error_iff` — which numbers have a lower-case code, and which one,
  and what becomes of the others;
* `readFields_eq_ok_iff` — the fields are read exactly if each names a code, no two the same one;
* `parse_eq_ok_iff` — so a text is a keymap exactly if it has sixteen such fields;
* `key?_eq_some_iff_of_parse` — a code stands for a key exactly if the key's field names it;
* `exists_code_of_parse` — in a keymap **every key has exactly one code**.
-/

namespace ChipEight

/-- **A number has a lower-case code** exactly if it is a code point whose form is one character. -/
theorem lowerCode_eq_ok_iff {code small : Int} :
    lowerCode code = .ok small ↔ (0 ≤ code ∧ code < 0x110000) ∧
      code.toNat ≠ Text.dottedCapitalI ∧ small = Text.smallLetter code.toNat := by
  unfold lowerCode characterLimit
  by_cases hwide : code < -0x80000000 ∨ 0x80000000 ≤ code
  · rw [if_pos hwide]
    exact ⟨nofun, fun ⟨_, _⟩ => by omega⟩
  by_cases hcode : code < 0 ∨ 0x110000 ≤ code
  · rw [if_neg hwide, if_pos hcode]
    exact ⟨nofun, fun ⟨_, _⟩ => by omega⟩
  have hpoint : 0 ≤ code ∧ code < 0x110000 := by omega
  rw [if_neg hwide, if_neg hcode, Text.lowerCase]
  by_cases hdotted : code.toNat = Text.dottedCapitalI
  · simp [hdotted]
  · simp [hdotted, hpoint, eq_comm]

/-- **The numbers without a lower-case code**, and what taking them in lower case fails with. -/
inductive Uncased : Int → Failure → Prop where
  /-- The number is too wide to number a character. -/
  | tooWide {code : Int} (h : code < -characterLimit ∨ characterLimit ≤ code) :
    Uncased code .characterTooWide
  /-- The number is no code point. -/
  | noCharacter {code : Int} (hnarrow : -characterLimit ≤ code ∧ code < characterLimit)
    (h : code < 0 ∨ 0x110000 ≤ code) : Uncased code .noSuchCharacter
  /-- The form of `İ` has two characters. -/
  | dotted : Uncased Text.dottedCapitalI (.severalCharacters 2)

/-- **A number has no lower-case code** exactly if it is one of these. -/
theorem lowerCode_eq_error_iff {code : Int} {failure : Failure} :
    lowerCode code = .error failure ↔ Uncased code failure := by
  have hform : lowerCode Text.dottedCapitalI = .error (.severalCharacters 2) := rfl
  constructor
  · intro h
    by_cases hwide : code < -characterLimit ∨ characterLimit ≤ code
    · rw [lowerCode, if_pos hwide] at h
      obtain rfl := Except.error.inj h
      exact .tooWide hwide
    by_cases hpoint : code < 0 ∨ 0x110000 ≤ code
    · rw [lowerCode, if_neg hwide, if_pos hpoint] at h
      obtain rfl := Except.error.inj h
      exact .noCharacter (by omega) hpoint
    -- a code point fails only if its form is not one character
    by_cases hdotted : code = Text.dottedCapitalI
    · rw [hdotted, hform] at h
      obtain rfl := Except.error.inj h
      rw [hdotted]
      exact .dotted
    · have hok : lowerCode code = .ok (Text.smallLetter code.toNat) :=
        lowerCode_eq_ok_iff.2 ⟨by omega, by omega, rfl⟩
      nomatch h.symm.trans hok
  · intro h
    cases h with
    | tooWide hwide => rw [lowerCode, if_pos hwide]
    | noCharacter hnarrow hpoint => rw [lowerCode, if_neg (by omega), if_pos hpoint]
    | dotted => exact hform

namespace Keymap

/-! ## Looking up a code -/

/-- Where no code occurs twice, an entry is found under its code. -/
theorem lookup_eq_some_iff_mem {entries : List (Int × Digit)} {code : Int} {k : Digit}
    (h : (entries.map Prod.fst).Nodup) : entries.lookup code = some k ↔ (code, k) ∈ entries := by
  constructor
  · intro hlookup
    obtain ⟨before, after, rfl, -⟩ := List.lookup_eq_some_iff.1 hlookup
    simp
  · intro hmem
    obtain ⟨before, after, rfl⟩ := List.append_of_mem hmem
    refine List.lookup_eq_some_iff.2 ⟨before, after, rfl, fun entry hentry => ?_⟩
    rw [List.map_append, List.nodup_append] at h
    have hne := h.2.2 entry.1 (List.mem_map_of_mem hentry) code (by simp)
    simpa using fun heq => hne heq.symm

/-- A code is found exactly if it is there. -/
theorem isSome_lookup_iff {entries : List (Int × Digit)} {code : Int} :
    (entries.lookup code).isSome ↔ code ∈ entries.map Prod.fst := by
  rw [← Option.ne_none_iff_isSome, Ne, List.lookup_eq_none_iff, List.mem_map]
  constructor
  · intro h
    by_contra hmem
    exact h fun entry hentry => bne_iff_ne.2 fun heq => hmem ⟨entry, hentry, heq.symm⟩
  · rintro ⟨entry, hentry, rfl⟩ h
    simpa using h entry hentry

/-! ## Reading the fields -/

/-- A field names a code in lower case exactly if it is an integer that has one. -/
theorem fieldCode_true_eq_ok_iff {field : String} {small : Int} :
    fieldCode true field = .ok small ↔
      ∃ named, Text.readInteger? field = some named ∧ lowerCode named = .ok small := by
  unfold fieldCode
  cases Text.readInteger? field <;> simp [throw, throwThe, MonadExceptOf.throw]

/-- **What reading a field fails with**: it is no integer, or an integer without a lower-case code. -/
theorem fieldCode_eq_error_iff {lower : Bool} {field : String} {failure : Failure} :
    fieldCode lower field = .error failure ↔
      (Text.readInteger? field = none ∧ failure = .keymap .notAnInteger) ∨
      (lower = true ∧ ∃ n, Text.readInteger? field = some n ∧ Uncased n failure) := by
  unfold fieldCode
  rcases Text.readInteger? field with _ | n
  · simp [throw, throwThe, MonadExceptOf.throw, eq_comm]
  · cases lower with
    | false => simp [pure, Except.pure]
    | true => simp [lowerCode_eq_error_iff]

/-- The codes that some fields name, one a field. -/
def CodesOf (lower : Bool) (fields : List String) (codes : List Int) : Prop :=
  List.Forall₂ (fun field code => fieldCode lower field = .ok code) fields codes

/-- One field more is read exactly if it names a code that has not been read before. -/
theorem readFields_cons_eq_ok_iff {lower : Bool} {entries all : List (Int × Digit)} {field : String}
    {key : Digit} {rest : List (String × Digit)} :
    readFields lower entries ((field, key) :: rest) = .ok all ↔
      ∃ code, fieldCode lower field = .ok code ∧ code ∉ entries.map Prod.fst ∧
        readFields lower ((code, key) :: entries) rest = .ok all := by
  rw [readFields]
  rcases fieldCode lower field with failure | code
  · exact ⟨nofun, fun ⟨_, h, _⟩ => nomatch h⟩
  · by_cases hcode : code ∈ entries.map Prod.fst
    · have hsome := isSome_lookup_iff.2 hcode
      simp only [bind, Except.bind, hsome, if_true]
      constructor
      · exact nofun
      · rintro ⟨code', h, hnew, -⟩
        obtain rfl := Except.ok.inj h
        exact absurd hcode hnew
    · have hnone := mt isSome_lookup_iff.1 hcode
      simp only [bind, Except.bind, hnone]
      constructor
      · intro h
        exact ⟨code, rfl, hcode, h⟩
      · rintro ⟨code', h, -, hrest⟩
        obtain rfl := Except.ok.inj h
        exact hrest

/-- **The fields are read exactly if each names a code**, no two the same and none one that was read
before; then each key follows with its code. -/
theorem readFields_eq_ok_iff {lower : Bool} {entries all : List (Int × Digit)}
    {fields : List (String × Digit)} :
    readFields lower entries fields = .ok all ↔
      ∃ codes, CodesOf lower (fields.map Prod.fst) codes ∧ codes.Nodup ∧
        (∀ code ∈ codes, code ∉ entries.map Prod.fst) ∧
        all = entries.reverse ++ codes.zip (fields.map Prod.snd) := by
  induction fields generalizing entries with
  | nil =>
    simp only [readFields, Except.ok.injEq, List.map_nil, List.zip_nil_right, List.append_nil]
    constructor
    · rintro rfl
      exact ⟨[], .nil, .nil, nofun, rfl⟩
    · rintro ⟨codes, -, -, -, rfl⟩
      rfl
  | cons first rest ih =>
    obtain ⟨field, key⟩ := first
    simp only [readFields_cons_eq_ok_iff, ih, List.map_cons, List.reverse_cons, List.append_assoc,
      List.singleton_append, List.mem_cons, not_or]
    constructor
    · rintro ⟨code, hcode, hfresh, codes, hcodes, hnodup, hnew, rfl⟩
      refine ⟨code :: codes, .cons hcode hcodes, List.nodup_cons.2 ⟨?_, hnodup⟩, ?_, rfl⟩
      · exact fun hmem => (hnew code hmem).1 rfl
      · intro other hother
        rcases List.mem_cons.1 hother with rfl | hother
        · exact hfresh
        · exact (hnew other hother).2
    · rintro ⟨codes, hall, hnodup, hnew, rfl⟩
      obtain ⟨code, codes, hcode, hcodes, rfl⟩ := List.forall₂_cons_left_iff.1 hall
      obtain ⟨hother, hnodup⟩ := List.nodup_cons.1 hnodup
      refine ⟨code, hcode, hnew code List.mem_cons_self, codes, hcodes, hnodup, ?_, rfl⟩
      intro other hmem
      exact ⟨fun heq => hother (heq ▸ hmem), hnew other (List.mem_cons_of_mem code hmem)⟩

/-! ## Keymaps -/

/-- **A text is a keymap exactly if it has sixteen fields** that each name a code, no two the same;
then the keys have these codes in order. -/
theorem parse_eq_ok_iff {text : String} {lower : Bool} {keymap : Keymap} :
    parse text lower = .ok keymap ↔
      (fields text).length = 16 ∧ ∃ codes, CodesOf lower (fields text) codes ∧ codes.Nodup ∧
        keymap.entries = codes.zip (List.finRange 16) := by
  by_cases hlength : (fields text).length = 16
  · have hkeys : (fields text).length = (List.finRange 16).length := by
      rw [hlength, List.length_finRange]
    have hfields := List.map_fst_zip (Nat.le_of_eq hkeys)
    have hdigits := List.map_snd_zip (Nat.le_of_eq hkeys.symm)
    have hread (entries : List (Int × Digit)) :
        readFields lower [] ((fields text).zip (List.finRange 16)) = .ok entries ↔
          ∃ codes, CodesOf lower (fields text) codes ∧ codes.Nodup ∧
            entries = codes.zip (List.finRange 16) := by
      rw [readFields_eq_ok_iff, hfields, hdigits]
      simp
    obtain ⟨keymapEntries⟩ := keymap
    simp only [parse, hlength, ← hread, true_and, ne_eq, not_true_eq_false, if_false]
    rcases readFields lower [] ((fields text).zip (List.finRange 16)) with failure | entries
    · exact ⟨nofun, nofun⟩
    · simp [bind, Except.bind, pure, Except.pure]
  · simp [parse, hlength, bind, Except.bind, throw, throwThe, MonadExceptOf.throw]

/-- The codes of some fields, found by their place. -/
theorem CodesOf.getElem?_eq_some_iff {lower : Bool} {fields : List String} {codes : List Int}
    (h : CodesOf lower fields codes) {i : Nat} {code : Int} :
    codes[i]? = some code ↔ ∃ field, fields[i]? = some field ∧ fieldCode lower field = .ok code := by
  induction h generalizing i with
  | nil => simp
  | cons hfirst _ ih =>
    cases i with
    | zero => simp [hfirst]
    | succ i => simpa using ih

section Parsed

variable {text : String} {lower : Bool} {keymap : Keymap} (h : parse text lower = .ok keymap)
include h

/-- In a keymap every key has a field, and the field names a code. -/
theorem exists_fieldCode_of_parse (k : Digit) :
    ∃ field code, (fields text)[k.val]? = some field ∧ fieldCode lower field = .ok code := by
  obtain ⟨hlength, codes, hcodes, -, -⟩ := parse_eq_ok_iff.1 h
  have hk : k.val < codes.length := by
    rw [← hcodes.length_eq, hlength]
    exact k.isLt
  obtain ⟨field, hfield, hcode⟩ := hcodes.getElem?_eq_some_iff.1 (List.getElem?_eq_getElem hk)
  exact ⟨field, _, hfield, hcode⟩

/-- **A code stands for a key exactly if the key's field names it.** -/
theorem key?_eq_some_iff_of_parse {code : Int} {k : Digit} :
    keymap.key? code = some k ↔
      ∃ field, (fields text)[k.val]? = some field ∧ fieldCode lower field = .ok code := by
  obtain ⟨hlength, codes, hcodes, hnodup, hentries⟩ := parse_eq_ok_iff.1 h
  have hkeys : codes.length = (List.finRange 16).length := by
    rw [← hcodes.length_eq, hlength, List.length_finRange]
  have hnodup' : (keymap.entries.map Prod.fst).Nodup := by
    rw [hentries, List.map_fst_zip (Nat.le_of_eq hkeys)]
    exact hnodup
  rw [key?, lookup_eq_some_iff_mem hnodup', hentries, List.mem_iff_getElem?,
    ← hcodes.getElem?_eq_some_iff]
  simp only [List.getElem?_zip_eq_some]
  constructor
  · rintro ⟨i, hcode, hkey⟩
    obtain ⟨hi, hget⟩ := List.getElem?_eq_some_iff.1 hkey
    obtain rfl : i = k.val := by
      rw [← hget, List.getElem_finRange]
      rfl
    exact hcode
  · intro hcode
    exact ⟨k.val, hcode, by simp⟩

/-- **In a keymap every key has exactly one code.** -/
theorem exists_code_of_parse (k : Digit) :
    ∃ code, ∀ other, keymap.key? other = some k ↔ other = code := by
  obtain ⟨field, code, hfield, hcode⟩ := exists_fieldCode_of_parse h k
  refine ⟨code, fun other => ?_⟩
  rw [key?_eq_some_iff_of_parse h]
  constructor
  · rintro ⟨field', hfield', hother⟩
    obtain rfl := Option.some.inj (hfield.symm.trans hfield')
    exact Except.ok.inj (hother.symm.trans hcode)
  · rintro rfl
    exact ⟨field, hfield, hcode⟩

end Parsed

end Keymap

end ChipEight
