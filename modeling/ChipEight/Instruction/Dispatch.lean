import ChipEight.Instruction

/-!
# Instruction/Dispatch — which instruction a word is

One table serves two look-ups.  Under the keys 0 to 15 it holds what the first digit of a word
decides: the instruction itself, or the digits to look the word up by a second time.  Under larger
keys it holds the instructions that only a second look-up finds.  Words below 16 would meet the
first kind of entry on the second look-up, so they are refused before it.

* `decode?` — the instruction of a word, `none` if it is none;
* `lookup_ne_family` — what a second look-up finds is never a third one's digits.
-/

namespace ChipEight.Instruction

/-- What the table holds under a key. -/
inductive Entry where
  /-- The word is an instruction, built from its operands. -/
  | instruction (build : Word → Instruction)
  /-- The word is to be looked up again by these digits. -/
  | family (selector : Selector)

/-- The dispatch table. -/
def table : List (Int × Entry) := [
  (0x0, .family .whole),
  (0x1, .instruction fun w => .jump w.address),
  (0x2, .instruction fun w => .call w.address),
  (0x3, .instruction fun w => .skipIfByte w.x w.byte),
  (0x4, .instruction fun w => .skipUnlessByte w.x w.byte),
  (0x5, .family .ends),
  (0x6, .instruction fun w => .setByte w.x w.byte),
  (0x7, .instruction fun w => .addByte w.x w.byte),
  (0x8, .family .ends),
  (0x9, .family .ends),
  (0xA, .instruction fun w => .setIndex w.address),
  (0xB, .instruction fun w => .jumpOffset w.address),
  (0xC, .instruction fun w => .random w.x w.byte),
  (0xD, .instruction fun w => .draw w.x w.y w.n),
  (0xE, .family .allButX),
  (0xF, .family .allButX),
  (0x00E0, .instruction fun _ => .clear),
  (0x00EE, .instruction fun _ => .ret),
  (0x5000, .instruction fun w => .skipIfEqual w.x w.y),
  (0x8000, .instruction fun w => .copy w.x w.y),
  (0x8001, .instruction fun w => .bitOr w.x w.y),
  (0x8002, .instruction fun w => .bitAnd w.x w.y),
  (0x8003, .instruction fun w => .bitXor w.x w.y),
  (0x8004, .instruction fun w => .add w.x w.y),
  (0x8005, .instruction fun w => .sub w.x w.y),
  (0x8006, .instruction fun w => .shiftRight w.x),
  (0x8007, .instruction fun w => .subFrom w.x w.y),
  (0x800E, .instruction fun w => .shiftLeft w.x),
  (0x9000, .instruction fun w => .skipUnlessEqual w.x w.y),
  (0xE09E, .instruction fun w => .skipIfKey w.x),
  (0xE0A1, .instruction fun w => .skipUnlessKey w.x),
  (0xF007, .instruction fun w => .getDelay w.x),
  (0xF00A, .instruction fun w => .awaitKey w.x),
  (0xF015, .instruction fun w => .setDelay w.x),
  (0xF018, .instruction fun w => .setSound w.x),
  (0xF01E, .instruction fun w => .addIndex w.x),
  (0xF029, .instruction fun w => .glyph w.x),
  (0xF033, .instruction fun w => .decimal w.x),
  (0xF055, .instruction fun w => .save w.x),
  (0xF065, .instruction fun w => .restore w.x)]

/-- The key of the second look-up.  Where all digits decide, a number is looked up as it is, beyond
sixteen bits too, and one below 16 not at all. -/
def secondKey? (selector : Selector) (opcode : Int) : Option Int :=
  if selector = .whole then
    if opcode < 0x10 then none else some opcode
  else some (selector.key (Word.ofInt opcode))

/-- The instruction of a word. -/
def decode? (opcode : Int) : Option Instruction :=
  let w := Word.ofInt opcode
  match table.lookup (w.kind.val : Int) with
  | some (.instruction build) => some (build w)
  | some (.family selector) =>
    match (secondKey? selector opcode).bind (table.lookup ·) with
    | some (.instruction build) => some (build w)
    | _ => none
  | none => none

/-- **Under a key of 16 or more the table holds no digits to look up by**, so two look-ups are
always enough. -/
theorem lookup_ne_family {key : Int} (h : 0x10 ≤ key) (selector : Selector) :
    table.lookup key ≠ some (.family selector) := by
  intro hlookup
  obtain ⟨before, after, htable, -⟩ := List.lookup_eq_some_iff.1 hlookup
  have hmem : (key, Entry.family selector) ∈ table := by simp [htable]
  simp only [table, List.mem_cons, Prod.mk.injEq, List.not_mem_nil, or_false, reduceCtorEq,
    and_false, or_self, false_or] at hmem
  grind

end ChipEight.Instruction
