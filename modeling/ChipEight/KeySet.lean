import ChipEight.Failure

/-!
# KeySet — sets of the sixteen keys

The keypad has sixteen keys, numbered by the hexadecimal digits.  A set of keys serves as the keypad
itself (the keys that are down), as the keys that were already held when a wait began, and as the
keys that an input system keeps track of.

* `KeySet.contains_put`, `contains_inter`, … — what each operation holds;
* `KeySet.ext` — a set is determined by its keys;
* `KeySet.mem_toList`, `toList_sorted` — the list of a set holds its keys, ascending;
* `KeySet.head?_toList_eq_some_iff` — …so it begins with the smallest.
-/

namespace ChipEight

/-- A key, or a register: one of the sixteen hexadecimal digits. -/
abbrev Digit := Fin 16

namespace Digit

/-- The key of a number: 0 to 15 from the start, -16 to -1 from the end. -/
def ofNumber (access : Access) (n : Int) : Except Failure Digit :=
  if h : 0 ≤ n ∧ n < 16 then .ok ⟨n.toNat, by omega⟩
  else if h : -16 ≤ n ∧ n < 0 then .ok ⟨(n + 16).toNat, by omega⟩
  else if tooWideForPlace n then .error .indexTooWide
  else .error (.noSuchKey access)

/-- The low hexadecimal digit of a byte. -/
def ofByte (b : UInt8) : Digit :=
  ⟨b.toNat % 16, by omega⟩

/-- A key's number is below sixteen. -/
theorem val_lt (d : Digit) : d.val < 16 := d.isLt

/-- A place set changes what is read there and nowhere else. -/
theorem get_set {α : Type} (v : Vector α 16) (x y : Digit) (a : α) :
    (v.set x a x.val_lt).get y = if x = y then a else v.get y := by
  change (v.set x a x.val_lt)[y.val] = if x = y then a else v[y.val]
  simp only [Vector.getElem_set, Fin.ext_iff]

/-- A number from 0 to 15 is its own key. -/
@[simp] theorem ofNumber_val (access : Access) (d : Digit) :
    ofNumber access (d.val : Int) = .ok d := by
  have : (0 : Int) ≤ d.val ∧ (d.val : Int) < 16 := by omega
  simp [ofNumber, this]

end Digit

/-- A set of keys. -/
structure KeySet where
  /-- Whether each key is in the set. -/
  flags : Vector Bool 16
deriving DecidableEq, Repr

namespace KeySet

/-- Whether a key is in the set. -/
def contains (s : KeySet) (k : Digit) : Bool :=
  s.flags.get k

instance : Membership Digit KeySet :=
  ⟨fun s k => s.contains k = true⟩

instance (k : Digit) (s : KeySet) : Decidable (k ∈ s) :=
  inferInstanceAs (Decidable (s.contains k = true))

/-- The set without keys. -/
def empty : KeySet := ⟨Vector.replicate 16 false⟩

instance : EmptyCollection KeySet := ⟨empty⟩

/-- The set with one key's membership decided anew. -/
def put (s : KeySet) (k : Digit) (present : Bool) : KeySet :=
  ⟨s.flags.set k present k.val_lt⟩

/-- The set with a key added. -/
def insert (s : KeySet) (k : Digit) : KeySet := s.put k true

/-- The set with a key removed. -/
def erase (s : KeySet) (k : Digit) : KeySet := s.put k false

/-- A key named by its number put in or taken out; there may be no such key. -/
def setNumber (s : KeySet) (n : Int) (present : Bool) : Except Failure KeySet :=
  (Digit.ofNumber .setting n).map (s.put · present)

/-- Whether the key of a number is in the set; there may be no such key. -/
def containsNumber (s : KeySet) (n : Int) : Except Failure Bool :=
  (Digit.ofNumber .reading n).map s.contains

/-- The keys that are in both sets. -/
def inter (s t : KeySet) : KeySet :=
  ⟨Vector.ofFn fun k => s.contains k && t.contains k⟩

/-- The keys of the first set that are not in the second. -/
def diff (s t : KeySet) : KeySet :=
  ⟨Vector.ofFn fun k => s.contains k && !t.contains k⟩

/-- The set of the keys that satisfy a test. -/
def ofPredicate (p : Digit → Bool) : KeySet :=
  ⟨Vector.ofFn p⟩

/-- The keys of a set, ascending. -/
def toList (s : KeySet) : List Digit :=
  (List.finRange 16).filter s.contains

/-! ## What each operation holds -/

/-- A key is in the set if its flag is set. -/
theorem contains_eq_getElem (s : KeySet) (k : Digit) : s.contains k = s.flags[k.val] := rfl

theorem mem_iff {s : KeySet} {k : Digit} : k ∈ s ↔ s.contains k = true := Iff.rfl

/-- A set is determined by its keys. -/
theorem ext {s t : KeySet} (h : ∀ k, s.contains k = t.contains k) : s = t := by
  obtain ⟨s⟩ := s
  obtain ⟨t⟩ := t
  congr 1
  exact Vector.ext fun i hi => h ⟨i, hi⟩

@[simp] theorem contains_empty (k : Digit) : contains ∅ k = false := by
  change (Vector.replicate 16 false)[k.val] = false
  simp

@[simp] theorem contains_put (s : KeySet) (k : Digit) (present : Bool) (j : Digit) :
    (s.put k present).contains j = if j = k then present else s.contains j := by
  simp only [contains, put, Digit.get_set, eq_comm]

@[simp] theorem contains_insert (s : KeySet) (k j : Digit) :
    (s.insert k).contains j = (decide (j = k) || s.contains j) := by
  simp only [insert, contains_put]
  split <;> simp_all

@[simp] theorem contains_erase (s : KeySet) (k j : Digit) :
    (s.erase k).contains j = (!decide (j = k) && s.contains j) := by
  simp only [erase, contains_put]
  split <;> simp_all

@[simp] theorem contains_inter (s t : KeySet) (k : Digit) :
    (s.inter t).contains k = (s.contains k && t.contains k) := by
  simp [contains_eq_getElem, inter]

@[simp] theorem contains_diff (s t : KeySet) (k : Digit) :
    (s.diff t).contains k = (s.contains k && !t.contains k) := by
  simp [contains_eq_getElem, diff]

@[simp] theorem contains_ofPredicate (p : Digit → Bool) (k : Digit) :
    (ofPredicate p).contains k = p k := by
  simp [contains_eq_getElem, ofPredicate]

@[simp] theorem not_mem_empty (k : Digit) : k ∉ (∅ : KeySet) := by
  simp [mem_iff]

@[simp] theorem mem_insert {s : KeySet} {k j : Digit} : j ∈ s.insert k ↔ j = k ∨ j ∈ s := by
  simp [mem_iff]

@[simp] theorem mem_erase {s : KeySet} {k j : Digit} : j ∈ s.erase k ↔ j ≠ k ∧ j ∈ s := by
  simp [mem_iff]

@[simp] theorem mem_inter {s t : KeySet} {k : Digit} : k ∈ s.inter t ↔ k ∈ s ∧ k ∈ t := by
  simp [mem_iff]

@[simp] theorem mem_diff {s t : KeySet} {k : Digit} : k ∈ s.diff t ↔ k ∈ s ∧ k ∉ t := by
  simp [mem_iff]

/-- The list of a set holds exactly its keys. -/
@[simp] theorem mem_toList {s : KeySet} {k : Digit} : k ∈ s.toList ↔ k ∈ s := by
  simp [toList, mem_iff]

/-- The list of a set ascends. -/
theorem toList_sorted (s : KeySet) : s.toList.Pairwise (· < ·) :=
  List.Pairwise.filter _ (by decide)

/-- **The list of a set begins with its smallest key.** -/
theorem head?_toList_eq_some_iff {s : KeySet} {k : Digit} :
    s.toList.head? = some k ↔ k ∈ s ∧ ∀ j ∈ s, k ≤ j := by
  have hsorted := s.toList_sorted
  simp only [← mem_toList]
  generalize s.toList = keys at hsorted ⊢
  rcases keys with _ | ⟨first, rest⟩
  · simp
  · have hfirst : ∀ j ∈ rest, first < j := (List.pairwise_cons.1 hsorted).1
    rw [List.head?_cons, Option.some.injEq]
    constructor
    · rintro rfl
      refine ⟨List.mem_cons_self, fun j hj => ?_⟩
      rcases List.mem_cons.1 hj with rfl | hj
      · exact Fin.le_refl j
      · exact Fin.le_of_lt (hfirst j hj)
    · rintro ⟨hk, hmin⟩
      rcases List.mem_cons.1 hk with rfl | hk
      · rfl
      · exact Fin.le_antisymm (Fin.le_of_lt (hfirst k hk)) (hmin first List.mem_cons_self)

/-- A set without keys has an empty list. -/
theorem head?_toList_eq_none_iff {s : KeySet} : s.toList.head? = none ↔ ∀ k, k ∉ s := by
  simp only [List.head?_eq_none_iff, List.eq_nil_iff_forall_not_mem, mem_toList]

end KeySet

end ChipEight
