import ChipEight.Proofs.Input.Keymap

/-!
# Proofs/Input/Refusal — which texts are refused as keymaps, and for what

The fields of a text are read from left to right, and the first that spoils the keymap says what is
wrong with it.  A field spoils a keymap if it names no code, or a code that a field before it names.

* `fields_eq_iff` — fields are what stands between the commas;
* `readFields_eq_error_iff`, `parse_eq_error_iff` — **the first field that spoils a keymap** is what it
  is refused for, if its fields are sixteen;
* `parse_escapes_iff` — where codes are taken in lower case, an integer may have none, which is no fault
  of a keymap;
* `parse_eq_iff_distinct` — with codes that all have a lower-case form, a text is a keymap exactly if
  its sixteen fields name **distinct codes**, and then each key is the image of exactly one.
-/

namespace ChipEight.Keymap

open Text

variable {lower : Bool} {text field : String} {failure : Failure}

/-! ## Between the commas -/

/-- No part has a comma in it. -/
theorem comma_not_mem_of_mem_splitOn {cs part : List Char} (h : part ∈ cs.splitOn ',') :
    ',' ∉ part := by
  induction cs generalizing part with
  | nil =>
    obtain rfl := List.mem_singleton.1 h
    exact List.not_mem_nil
  | cons c cs ih =>
    rw [List.splitOn, List.splitOnP_cons_eq_if_modifyHead] at h
    split at h
    · obtain rfl | h := List.mem_cons.1 h
      · exact List.not_mem_nil
      · exact ih h
    · rename_i hc
      obtain ⟨first, rest, hparts⟩ := List.exists_cons_of_ne_nil
        (List.splitOnP_ne_nil (fun c => c == ',') cs)
      rw [hparts, List.modifyHead_cons, List.mem_cons] at h
      rw [List.splitOn, hparts] at ih
      obtain rfl | h := h
      · rw [List.mem_cons, not_or]
        exact ⟨fun heq => hc (beq_iff_eq.2 heq.symm), ih List.mem_cons_self⟩
      · exact ih (List.mem_cons_of_mem first h)

/-- **Fields are what stands between the commas**: there is at least one, none has a comma in it, and
with commas between them they are the text. -/
theorem fields_eq_iff {fs : List String} :
    fields text = fs ↔ fs ≠ [] ∧ (∀ field ∈ fs, ',' ∉ field.toList) ∧
      [','].intercalate (fs.map String.toList) = text.toList := by
  have hlists : (fields text).map String.toList = text.toList.splitOn ',' := by
    simp [fields, List.splitOn]
  constructor
  · rintro rfl
    refine ⟨?_, fun field hfield => ?_, by rw [hlists, List.intercalate_splitOn]⟩
    · intro hnil
      rw [hnil] at hlists
      exact List.splitOnP_ne_nil _ _ hlists.symm
    · exact comma_not_mem_of_mem_splitOn (hlists ▸ List.mem_map_of_mem hfield)
  · rintro ⟨hne, hfree, htext⟩
    have hsplit := List.splitOn_intercalate ',' (List.forall_mem_map.2 hfree)
      (mt List.map_eq_nil_iff.1 hne)
    rw [fields, ← htext]
    change (List.splitOn ',' _).map String.ofList = fs
    rw [hsplit, List.map_map]
    simp

/-! ## The first field that spoils a keymap -/

/-- **A field that spoils a keymap** in which some codes are taken: it names none, or one of these. -/
inductive Spoils (lower : Bool) (taken : List Int) (field : String) : Failure → Prop where
  | unread {failure : Failure} (h : fieldCode lower field = .error failure) :
    Spoils lower taken field failure
  | repeated {code : Int} (h : fieldCode lower field = .ok code) (htaken : code ∈ taken) :
    Spoils lower taken field (.keymap .duplicate)

/-- The order in which codes are taken makes no difference. -/
theorem Spoils.of_subset {taken taken' : List Int} (h : Spoils lower taken field failure)
    (hsubset : taken ⊆ taken') : Spoils lower taken' field failure := by
  cases h with
  | unread h => exact .unread h
  | repeated h htaken => exact .repeated h (hsubset htaken)

/-- Fields fail if the first of them spoils the keymap, or if those after it fail. -/
theorem readFields_cons_eq_error_iff {entries : List (Int × Digit)} {key : Digit}
    {rest : List (String × Digit)} :
    readFields lower entries ((field, key) :: rest) = .error failure ↔
      Spoils lower (entries.map Prod.fst) field failure ∨
        ∃ code, fieldCode lower field = .ok code ∧ code ∉ entries.map Prod.fst ∧
          readFields lower ((code, key) :: entries) rest = .error failure := by
  rw [readFields]
  rcases hread : fieldCode lower field with failure' | code
  · constructor
    · intro h
      obtain rfl := Except.error.inj h
      exact .inl (.unread hread)
    · rintro (hspoils | ⟨code, h, -⟩)
      · cases hspoils with
        | unread h =>
          obtain rfl := Except.error.inj (hread.symm.trans h)
          rfl
        | repeated h => cases hread.symm.trans h
      · cases h
  · by_cases htaken : code ∈ entries.map Prod.fst
    · have hsome := isSome_lookup_iff.2 htaken
      simp only [bind, Except.bind, hsome, if_true]
      constructor
      · intro h
        obtain rfl := Except.error.inj h
        exact .inl (.repeated hread htaken)
      · rintro (hspoils | ⟨code', h, hnew, -⟩)
        · cases hspoils with
          | unread h => cases hread.symm.trans h
          | repeated => rfl
        · obtain rfl := Except.ok.inj h
          exact absurd htaken hnew
    · have hnone := mt isSome_lookup_iff.1 htaken
      simp only [bind, Except.bind, hnone]
      constructor
      · intro h
        exact .inr ⟨code, rfl, htaken, h⟩
      · rintro (hspoils | ⟨code', h, -, hrest⟩)
        · cases hspoils with
          | unread h => cases hread.symm.trans h
          | repeated h htaken' =>
            obtain rfl := Except.ok.inj (hread.symm.trans h)
            exact absurd htaken' htaken
        · obtain rfl := Except.ok.inj h
          exact hrest

/-- **Fields fail for the first of them that spoils the keymap**, in which the codes of those before it
are taken, and those that were taken before. -/
theorem readFields_eq_error_iff {entries : List (Int × Digit)} {fields : List (String × Digit)} :
    readFields lower entries fields = .error failure ↔
      ∃ before field after codes, fields.map Prod.fst = before ++ field :: after ∧
        CodesOf lower before codes ∧ codes.Nodup ∧ (∀ code ∈ codes, code ∉ entries.map Prod.fst) ∧
        Spoils lower (codes ++ entries.map Prod.fst) field failure := by
  induction fields generalizing entries with
  | nil => simp [readFields]
  | cons first rest ih =>
    obtain ⟨field, key⟩ := first
    rw [readFields_cons_eq_error_iff, List.map_cons]
    constructor
    · rintro (hspoils | ⟨code, hcode, hfresh, hrest⟩)
      · exact ⟨[], field, _, [], rfl, .nil, .nil, List.forall_mem_nil _, hspoils⟩
      · obtain ⟨before, spoiling, after, codes, hfields, hcodes, hnodup, hnew, hspoils⟩ := ih.1 hrest
        simp only [List.map_cons, List.mem_cons, not_or] at hnew
        refine ⟨field :: before, spoiling, after, code :: codes, ?_, .cons hcode hcodes,
          List.nodup_cons.2 ⟨fun hmem => (hnew code hmem).1 rfl, hnodup⟩, ?_, ?_⟩
        · rw [hfields, List.cons_append]
        · exact List.forall_mem_cons.2 ⟨hfresh, fun other hother => (hnew other hother).2⟩
        · exact hspoils.of_subset (by simp)
    · rintro ⟨before, spoiling, after, codes, hfields, hcodes, hnodup, hnew, hspoils⟩
      -- either the first field spoils the keymap, or it is read and one after it does
      cases hcodes with
      | nil =>
        obtain ⟨rfl, -⟩ := List.cons.inj hfields
        exact .inl hspoils
      | @cons _ code before codes hcode hcodes =>
        obtain ⟨rfl, hrest⟩ := List.cons.inj hfields
        obtain ⟨hother, hnodup⟩ := List.nodup_cons.1 hnodup
        obtain ⟨hfresh, hnew⟩ := List.forall_mem_cons.1 hnew
        refine .inr ⟨code, hcode, hfresh, ih.2 ⟨before, spoiling, after, codes, hrest, hcodes,
          hnodup, fun other hmem => ?_, hspoils.of_subset (by simp)⟩⟩
        rw [List.map_cons, List.mem_cons, not_or]
        exact ⟨ne_of_mem_of_not_mem hmem hother, hnew other hmem⟩

/-- **Why a text is refused**: for the number of its fields, or else for the first of them that spoils
the keymap. -/
theorem parse_eq_error_iff :
    parse text lower = .error failure ↔
      ((fields text).length ≠ 16 ∧ failure = .keymap .fieldCount) ∨
      ((fields text).length = 16 ∧ ∃ before field after codes,
        fields text = before ++ field :: after ∧ CodesOf lower before codes ∧ codes.Nodup ∧
        Spoils lower codes field failure) := by
  by_cases hlength : (fields text).length = 16
  · have hkeys : (fields text).length = (List.finRange 16).length := by
      rw [hlength, List.length_finRange]
    have hread : readFields lower [] ((fields text).zip (List.finRange 16)) = .error failure ↔
        ∃ before field after codes, fields text = before ++ field :: after ∧
          CodesOf lower before codes ∧ codes.Nodup ∧ Spoils lower codes field failure := by
      rw [readFields_eq_error_iff, List.map_fst_zip (Nat.le_of_eq hkeys)]
      simp
    simp only [parse, hlength, ← hread, true_and, ne_eq, not_true_eq_false, if_false, false_and,
      false_or]
    rcases readFields lower [] ((fields text).zip (List.finRange 16)) with failure' | entries
    · simp [bind, Except.bind]
    · simp [bind, Except.bind, pure, Except.pure]
  · simp [parse, hlength, bind, Except.bind, throw, throwThe, MonadExceptOf.throw, eq_comm]

/-! ## Failures that are no fault of a keymap -/

/-- **A text whose refusal is no fault of a keymap**: of its sixteen fields, the first that spoils the
keymap is an integer without a lower-case code. -/
def Escapes (text : String) (failure : Failure) : Prop :=
  (fields text).length = 16 ∧ ∃ before field after codes n,
    fields text = before ++ field :: after ∧ CodesOf true before codes ∧ codes.Nodup ∧
    readInteger? field = some n ∧ Uncased n failure

theorem Escapes.ne_keymap (h : Escapes text failure) (fault : KeymapFault) :
    failure ≠ .keymap fault := by
  obtain ⟨-, _, _, _, _, _, -, -, -, -, huncased⟩ := h
  cases huncased <;> exact nofun

/-- **A refused text has a fault of a keymap, or escapes** it where codes are taken in lower case. -/
theorem parse_eq_error_cases (h : parse text lower = .error failure) :
    (∃ fault, failure = .keymap fault) ∨ (lower = true ∧ Escapes text failure) := by
  obtain ⟨-, rfl⟩ | ⟨hlength, before, field, after, codes, hfields, hcodes, hnodup, hspoils⟩ :=
    parse_eq_error_iff.1 h
  · exact .inl ⟨_, rfl⟩
  cases hspoils with
  | repeated => exact .inl ⟨_, rfl⟩
  | unread hread =>
    obtain ⟨-, rfl⟩ | ⟨rfl, n, hn, huncased⟩ := fieldCode_eq_error_iff.1 hread
    · exact .inl ⟨_, rfl⟩
    · exact .inr ⟨rfl, hlength, before, field, after, codes, n, hfields, hcodes, hnodup, hn, huncased⟩

/-- **Exactly the texts that escape** are refused without a fault of a keymap. -/
theorem parse_escapes_iff :
    (parse text lower = .error failure ∧ ∀ fault, failure ≠ .keymap fault) ↔
      lower = true ∧ Escapes text failure := by
  constructor
  · rintro ⟨h, hne⟩
    obtain ⟨fault, hfault⟩ | hescapes := parse_eq_error_cases h
    · exact absurd hfault (hne fault)
    · exact hescapes
  · rintro ⟨rfl, hescapes⟩
    refine ⟨?_, hescapes.ne_keymap⟩
    obtain ⟨hlength, before, field, after, codes, n, hfields, hcodes, hnodup, hn, huncased⟩ := hescapes
    have hread := fieldCode_eq_error_iff.2 (.inr ⟨rfl, n, hn, huncased⟩)
    exact parse_eq_error_iff.2
      (.inr ⟨hlength, before, field, after, codes, hfields, hcodes, hnodup, .unread hread⟩)

/-! ## Distinct codes -/

/-- **Fields whose integers can all be taken in lower case**, if that is asked for: they are code points
with a lower-case form of one character. -/
def Cased (lower : Bool) (fields : List String) : Prop :=
  lower = true → ∀ field ∈ fields, ∀ n, readInteger? field = some n →
    (0 ≤ n ∧ n < 0x110000) ∧ (Text.lowerCase n.toNat).length = 1

/-- The code that such a field names: its integer, or the small letter for it. -/
def named? (lower : Bool) (field : String) : Option Int :=
  (readInteger? field).map fun n => if lower then (smallLetter n.toNat : Int) else n

/-- **Fields that name distinct codes**: each names one, and no two the same. -/
def Distinct (lower : Bool) (fields : List String) : Prop :=
  ∃ codes : List Int, fields.map (named? lower) = codes.map some ∧ codes.Nodup

/-- **The fault of the first field that spoils a keymap**, where all before it name distinct codes: it
is no integer, or names the code of one before it. -/
inductive FirstFault (lower : Bool) (fields : List String) : KeymapFault → Prop where
  | notAnInteger {before after : List String} {field : String}
    (hfields : fields = before ++ field :: after) (hbefore : Distinct lower before)
    (hfield : readInteger? field = none) : FirstFault lower fields .notAnInteger
  | duplicate {before after : List String} {field earlier : String}
    (hfields : fields = before ++ field :: after) (hbefore : Distinct lower before)
    (hearlier : earlier ∈ before) (hfield : named? lower field = named? lower earlier) :
    FirstFault lower fields .duplicate

section Cased

variable {fields : List String} (h : Cased lower fields)
include h

/-- A field fails only if it is no integer. -/
theorem fieldCode_of_cased (hfield : field ∈ fields) :
    fieldCode lower field =
      match named? lower field with
      | some code => .ok code
      | none => .error (.keymap .notAnInteger) := by
  unfold named?
  rcases hread : readInteger? field with _ | n
  · exact fieldCode_eq_error_iff.2 (.inl ⟨hread, rfl⟩)
  cases lower with
  | false => simp [fieldCode, hread, pure, Except.pure]
  | true =>
    obtain ⟨hpoint, hform⟩ := h rfl field hfield n hread
    have hdotted : n.toNat ≠ dottedCapitalI := fun hdotted => by
      rw [length_lowerCase, if_pos hdotted] at hform
      nomatch hform
    exact fieldCode_true_eq_ok_iff.2 ⟨n, hread, lowerCode_eq_ok_iff.2 ⟨hpoint, hdotted, rfl⟩⟩

theorem fieldCode_eq_ok_iff_of_cased (hfield : field ∈ fields) {code : Int} :
    fieldCode lower field = .ok code ↔ named? lower field = some code := by
  rw [fieldCode_of_cased h hfield]
  cases named? lower field <;> simp

theorem fieldCode_eq_error_iff_of_cased (hfield : field ∈ fields) :
    fieldCode lower field = .error failure ↔
      readInteger? field = none ∧ failure = .keymap .notAnInteger := by
  rw [fieldCode_of_cased h hfield, named?]
  cases readInteger? field <;> simp [eq_comm]

theorem codesOf_iff_of_cased {before : List String} {codes : List Int} (hsubset : before ⊆ fields) :
    CodesOf lower before codes ↔ before.map (named? lower) = codes.map some := by
  induction before generalizing codes with
  | nil => rw [CodesOf, List.forall₂_nil_left_iff, List.map_nil, List.nil_eq, List.map_eq_nil_iff]
  | cons field before ih =>
    obtain ⟨hfield, hbefore⟩ := List.cons_subset.1 hsubset
    cases codes with
    | nil => simp [CodesOf]
    | cons code codes =>
      rw [CodesOf, List.forall₂_cons, fieldCode_eq_ok_iff_of_cased h hfield, ← CodesOf, ih hbefore,
        List.map_cons, List.map_cons, List.cons.injEq]

theorem distinct_iff_of_cased {before : List String} (hsubset : before ⊆ fields) :
    Distinct lower before ↔ ∃ codes, CodesOf lower before codes ∧ codes.Nodup := by
  simp only [Distinct, codesOf_iff_of_cased h hsubset]

/-- Where all integers can be taken in lower case, the first field that spoils the keymap has a
fault. -/
theorem spoils_iff_of_cased :
    (∃ before field after codes, fields = before ++ field :: after ∧ CodesOf lower before codes ∧
        codes.Nodup ∧ Spoils lower codes field failure) ↔
      ∃ fault, FirstFault lower fields fault ∧ failure = .keymap fault := by
  have hmem {before after : List String} {field : String}
      (hfields : fields = before ++ field :: after) : field ∈ fields ∧ before ⊆ fields := by
    simp [hfields]
  constructor
  · rintro ⟨before, field, after, codes, hfields, hcodes, hnodup, hspoils⟩
    obtain ⟨hfield, hsubset⟩ := hmem hfields
    have hbefore := (distinct_iff_of_cased h hsubset).2 ⟨codes, hcodes, hnodup⟩
    cases hspoils with
    | unread hread =>
      obtain ⟨hnone, rfl⟩ := (fieldCode_eq_error_iff_of_cased h hfield).1 hread
      exact ⟨_, .notAnInteger hfields hbefore hnone, rfl⟩
    | @repeated code hread htaken =>
      -- the code that is taken is named by a field before
      have hnamed := (codesOf_iff_of_cased h hsubset).1 hcodes
      have hearlier : some code ∈ before.map (named? lower) :=
        hnamed ▸ List.mem_map_of_mem htaken
      obtain ⟨earlier, hearlier, hcode⟩ := List.mem_map.1 hearlier
      have hsame := ((fieldCode_eq_ok_iff_of_cased h hfield).1 hread).trans hcode.symm
      exact ⟨_, .duplicate hfields hbefore hearlier hsame, rfl⟩
  · rintro ⟨fault, hfault, rfl⟩
    cases hfault with
    | @notAnInteger before after field hfields hbefore hread =>
      obtain ⟨hfield, hsubset⟩ := hmem hfields
      obtain ⟨codes, hcodes, hnodup⟩ := (distinct_iff_of_cased h hsubset).1 hbefore
      exact ⟨before, field, after, codes, hfields, hcodes, hnodup,
        .unread ((fieldCode_eq_error_iff_of_cased h hfield).2 ⟨hread, rfl⟩)⟩
    | @duplicate before after field earlier hfields hbefore hearlier hsame =>
      obtain ⟨hfield, hsubset⟩ := hmem hfields
      obtain ⟨codes, hcodes, hnodup⟩ := (distinct_iff_of_cased h hsubset).1 hbefore
      have hnamed := (codesOf_iff_of_cased h hsubset).1 hcodes
      have htaken : named? lower earlier ∈ codes.map some := hnamed ▸ List.mem_map_of_mem hearlier
      obtain ⟨code, htaken, hcode⟩ := List.mem_map.1 htaken
      have hread := (fieldCode_eq_ok_iff_of_cased h hfield).2 (hsame.trans hcode.symm)
      exact ⟨before, field, after, codes, hfields, hcodes, hnodup, .repeated hread htaken⟩

end Cased

/-- A keymap has an entry for each key, and no code twice. -/
theorem entries_of_parse {keymap : Keymap} (h : parse text lower = .ok keymap) :
    keymap.entries.length = 16 ∧ (keymap.entries.map Prod.fst).Nodup := by
  obtain ⟨hlength, codes, hcodes, hnodup, hentries⟩ := parse_eq_ok_iff.1 h
  have hkeys : codes.length = (List.finRange 16).length := by
    rw [← hcodes.length_eq, hlength, List.length_finRange]
  refine ⟨?_, ?_⟩
  · rw [hentries, List.length_zip, hkeys, Nat.min_self, List.length_finRange]
  · rw [hentries, List.map_fst_zip (Nat.le_of_eq hkeys)]
    exact hnodup

/-- **A text is a keymap exactly if its fields are sixteen and name distinct codes.**  Fields are what
stands between the commas.  A text of another number of fields is refused for that, and one of sixteen
for the first field that is no integer or names the code of a field before it.  A keymap has sixteen
entries with no code twice; each key stands where its field names its code, and is the image of no
other code. -/
theorem parse_eq_iff_distinct (hcased : Cased lower (fields text)) :
    (∀ fs, fields text = fs ↔ fs ≠ [] ∧ (∀ field ∈ fs, ',' ∉ field.toList) ∧
      [','].intercalate (fs.map String.toList) = text.toList) ∧
    ((∃ keymap, parse text lower = .ok keymap) ↔
      (fields text).length = 16 ∧ Distinct lower (fields text)) ∧
    (∀ failure, parse text lower = .error failure ↔
      ((fields text).length ≠ 16 ∧ failure = .keymap .fieldCount) ∨
      ((fields text).length = 16 ∧
        ∃ fault, FirstFault lower (fields text) fault ∧ failure = .keymap fault)) ∧
    ∀ keymap, parse text lower = .ok keymap →
      keymap.entries.length = 16 ∧ (keymap.entries.map Prod.fst).Nodup ∧
      (∀ k : Digit, ∃ field code, (fields text)[k.val]? = some field ∧
        named? lower field = some code ∧ keymap.key? code = some k) ∧
      ∀ k, ∃! code, keymap.key? code = some k := by
  refine ⟨fun fs => fields_eq_iff, ?_, fun failure => ?_, fun keymap hparse => ?_⟩
  · rw [distinct_iff_of_cased hcased (List.Subset.refl _)]
    constructor
    · rintro ⟨keymap, hparse⟩
      obtain ⟨hlength, codes, hcodes, hnodup, -⟩ := parse_eq_ok_iff.1 hparse
      exact ⟨hlength, codes, hcodes, hnodup⟩
    · rintro ⟨hlength, codes, hcodes, hnodup⟩
      exact ⟨⟨codes.zip (List.finRange 16)⟩,
        parse_eq_ok_iff.2 ⟨hlength, codes, hcodes, hnodup, rfl⟩⟩
  · rw [parse_eq_error_iff, spoils_iff_of_cased hcased]
  · obtain ⟨hlength, hnodup⟩ := entries_of_parse hparse
    refine ⟨hlength, hnodup, fun k => ?_, fun k => ?_⟩
    · obtain ⟨field, code, hfield, hcode⟩ := exists_fieldCode_of_parse hparse k
      have hmem := List.mem_of_getElem? hfield
      exact ⟨field, code, hfield, (fieldCode_eq_ok_iff_of_cased hcased hmem).1 hcode,
        (key?_eq_some_iff_of_parse hparse).2 ⟨field, hfield, hcode⟩⟩
    · obtain ⟨code, hcode⟩ := exists_code_of_parse hparse k
      exact ⟨code, (hcode code).2 rfl, fun other hother => (hcode other).1 hother⟩

/-- Blanks, signs, zeros in front, underscores and capitals make no difference: the first text is a
keymap, in which the code of `x` stands for key 0.  The second names `x` twice, and is refused for that
and not for its third field, which is no integer. -/
theorem parse_eq_iff_distinct_capital :
    let text := "88, 49 ,5_0,+51,0113,119,101,97,115,100,122,99,52,114,102,118"
    let other := "88,120,,51,113,119,101,97,115,100,122,99,52,114,102,118"
    (Cased true (fields text) ∧ ∃ keymap, parse text true = .ok keymap ∧
      keymap.key? 120 = some 0) ∧
    Cased true (fields other) ∧ parse other true = .error (.keymap .duplicate) := by
  intro text other
  have htext : ∀ field ∈ fields text, ∀ n ∈ readInteger? field,
      (0 ≤ n ∧ n < 0x110000) ∧ (Text.lowerCase n.toNat).length = 1 := by decide +kernel
  have hother : ∀ field ∈ fields other, ∀ n ∈ readInteger? field,
      (0 ≤ n ∧ n < 0x110000) ∧ (Text.lowerCase n.toNat).length = 1 := by decide +kernel
  have hfirst : (fields text)[0]? = some "88" := by decide +kernel
  have hdistinct : Distinct true (fields text) :=
    ⟨[120, 49, 50, 51, 113, 119, 101, 97, 115, 100, 122, 99, 52, 114, 102, 118],
      by decide +kernel, by decide⟩
  have hfields : fields other = ["88"] ++ "120" :: ["", "51", "113", "119", "101", "97", "115",
      "100", "122", "99", "52", "114", "102", "118"] := by decide +kernel
  have hfault : FirstFault true (fields other) .duplicate :=
    .duplicate hfields ⟨[120], by decide +kernel, by decide⟩ List.mem_cons_self (by decide +kernel)
  obtain ⟨-, hkeymap, -, hkeys⟩ := parse_eq_iff_distinct fun _ => htext
  obtain ⟨-, -, hrefused, -⟩ := parse_eq_iff_distinct fun _ => hother
  obtain ⟨keymap, hparse⟩ := hkeymap.2 ⟨by decide +kernel, hdistinct⟩
  obtain ⟨-, -, hcodes, -⟩ := hkeys keymap hparse
  obtain ⟨field, code, hfield, hcode, hkey⟩ := hcodes 0
  obtain rfl := Option.some.inj (hfirst.symm.trans hfield)
  obtain rfl : 120 = code := Option.some.inj hcode
  exact ⟨⟨fun _ => htext, keymap, hparse, hkey⟩, fun _ => hother,
    (hrefused _).2 (.inr ⟨by rw [hfields]; rfl, _, hfault, rfl⟩)⟩

end ChipEight.Keymap
