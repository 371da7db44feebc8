import ChipEight.Display.Terminal

/-!
# Display/Pad — what a pad shows

A pad is a grid of cells.  A cell is untouched until a write puts a character on it, plain or
reversed.  What a pad shows follows from the calls made so far.

* `Pad.apply` — a pad after a call;
* `Pad.cell?` — a cell of it;
* `Pad.cell?_write` — a write changes exactly the cells its text covers.
-/

namespace ChipEight

/-- A cell of a pad. -/
inductive Cell where
  | untouched
  | written (c : Char) (reversed : Bool)
deriving DecidableEq, Repr

/-- A grid of cells, row by row. -/
structure Pad where
  rows : Array (Array Cell)
deriving DecidableEq, Repr

namespace Pad

/-- A pad without cells. -/
def none : Pad := ⟨#[]⟩

/-- A pad of untouched cells. -/
def blank (height width : Nat) : Pad :=
  ⟨Array.replicate height (Array.replicate width .untouched)⟩

/-- A row with characters on it from `x` on; what runs past its end is dropped. -/
def writeRow (row : Array Cell) (x : Nat) (reversed : Bool) : List Char → Array Cell
  | [] => row
  | c :: rest => writeRow (row.setIfInBounds x (.written c reversed)) (x + 1) reversed rest

/-- A pad with a text on row `y` from `x` on. -/
def write (p : Pad) (y x : Nat) (text : String) (reversed : Bool) : Pad :=
  ⟨p.rows.modify y fun row => writeRow row x reversed text.toList⟩

/-- A pad after a call. -/
def apply (p : Pad) : TerminalCall → Pad
  | .newPad height width => blank height width
  | .write y x text reversed => p.write y x text reversed
  | _ => p

/-- The cell in a row and column, if the pad has it. -/
def cell? (p : Pad) (y x : Nat) : Option Cell :=
  p.rows[y]?.bind fun row => row[x]?

/-- A blank pad has untouched cells. -/
theorem cell?_blank {height width y x : Nat} (hy : y < height) (hx : x < width) :
    (blank height width).cell? y x = some .untouched := by
  simp [cell?, blank, hy, hx]

/-- A row keeps its number of cells. -/
@[simp] theorem size_writeRow (row : Array Cell) (x : Nat) (reversed : Bool) (cs : List Char) :
    (writeRow row x reversed cs).size = row.size := by
  induction cs generalizing row x with
  | nil => rfl
  | cons c rest ih => simp [writeRow, ih]

/-- A write changes the cells of a row that its text covers. -/
theorem getElem?_writeRow (row : Array Cell) (x : Nat) (reversed : Bool) (cs : List Char)
    (i : Nat) :
    (writeRow row x reversed cs)[i]? =
      if x ≤ i ∧ i < x + cs.length ∧ i < row.size then (cs[i - x]?).map (.written · reversed)
      else row[i]? := by
  induction cs generalizing row x with
  | nil =>
    have h : ¬(x ≤ i ∧ i < x + ([] : List Char).length ∧ i < row.size) := by
      simp only [List.length_nil]
      omega
    rw [if_neg h, writeRow]
  | cons c rest ih =>
    rw [writeRow, ih]
    by_cases hi : i = x
    · subst hi
      have hn : ¬(i + 1 ≤ i ∧ i < i + 1 + rest.length
          ∧ i < (row.setIfInBounds i (.written c reversed)).size) := by
        omega
      rw [if_neg hn]
      by_cases hs : i < row.size <;> simp [hs]
    · by_cases hr : x + 1 ≤ i ∧ i < x + 1 + rest.length ∧ i < row.size
      · have hl : x ≤ i ∧ i < x + (c :: rest).length ∧ i < row.size := by
          simp only [List.length_cons]
          omega
        have he : i - x = (i - (x + 1)) + 1 := by omega
        rw [if_pos (by simpa using hr), if_pos hl, he]
        simp
      · have hl : ¬(x ≤ i ∧ i < x + (c :: rest).length ∧ i < row.size) := by
          simp only [List.length_cons]
          omega
        rw [if_neg (by simpa using hr), if_neg hl, Array.getElem?_setIfInBounds_ne (Ne.symm hi)]

/-- **A write changes exactly the cells its text covers.** -/
theorem cell?_write (p : Pad) (y x : Nat) (text : String) (reversed : Bool) (y' x' : Nat) :
    (p.write y x text reversed).cell? y' x' =
      if y' = y ∧ x ≤ x' ∧ x' < x + text.length ∧ (p.cell? y' x').isSome then
        (text.toList[x' - x]?).map (.written · reversed)
      else p.cell? y' x' := by
  by_cases hy : y' = y
  · subst hy
    rcases hrow : p.rows[y']? with _ | row
    · have hcell : p.cell? y' x' = Option.none := by rw [cell?, hrow, Option.bind_none]
      rw [hcell, cell?, write, Array.getElem?_modify, if_pos rfl, hrow]
      simp
    · have hcell : p.cell? y' x' = row[x']? := by rw [cell?, hrow, Option.bind_some]
      rw [hcell, cell?, write, Array.getElem?_modify, if_pos rfl, hrow, Option.map_some,
        Option.bind_some, getElem?_writeRow, String.length_toList]
      simp
  · rw [if_neg fun h => hy h.1, cell?, write, Array.getElem?_modify, if_neg (Ne.symm hy)]
    rfl

/-- A write takes no cell away. -/
theorem isSome_cell?_write (p : Pad) (y x : Nat) (text : String) (reversed : Bool) (y' x' : Nat) :
    ((p.write y x text reversed).cell? y' x').isSome = (p.cell? y' x').isSome := by
  rw [cell?_write]
  split
  · obtain ⟨-, hx, hx', hcell⟩ := ‹y' = y ∧ _›
    have hlength : x' - x < text.toList.length := by
      rw [String.length_toList]
      omega
    simp [hcell, hlength]
  · rfl

end Pad

end ChipEight
