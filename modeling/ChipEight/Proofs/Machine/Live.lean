import ChipEight.Proofs.Machine.Run
import ChipEight.Proofs.Machine.Step

/-!
# Proofs/Machine/Live — a live machine runs as a silent one does, and tells what it runs

A live machine prints a line between the fetch of a word and its run.  No instruction looks at whether
the machine is live, so two machines that differ in nothing else go on side by side: what one prints
can be told from what the other does.

* `step_withLive` — **a step does the same whether or not the machine is live**;
* `run_withLive` — so does a run;
* `lineBefore` — the line of a word: what the machine shows before the word runs;
* `printed_step` — a step prints that line if it fetches a word, and nothing otherwise;
* `isOneLine_lineBefore` — it is a single line;
* `live_machine_only_prints` — **a live machine differs in what it prints, and in nothing else**.
-/

namespace ChipEight

/-! ## Texts of one line -/

namespace Text

/-- A text that takes one line. -/
def IsOneLine (s : String) : Prop := '\n' ∉ s.toList

instance (s : String) : Decidable (IsOneLine s) := inferInstanceAs (Decidable (_ ∉ _))

theorem IsOneLine.append {s t : String} (hs : IsOneLine s) (ht : IsOneLine t) :
    IsOneLine (s ++ t) := by
  rw [IsOneLine, String.toList_append, List.mem_append]
  exact not_or.2 ⟨hs, ht⟩

theorem IsOneLine.join {texts : List String} (h : ∀ s ∈ texts, IsOneLine s) :
    IsOneLine (String.join texts) := by
  rw [IsOneLine, String.toList_join, List.mem_flatMap]
  rintro ⟨s, hs, hmem⟩
  exact h s hs hmem

namespace Hex

/-- The digits of a number are hexadecimal digits. -/
theorem exists_digitChar_of_mem_digits {n : Nat} {c : Char} (h : c ∈ digits n) :
    ∃ d < 16, c = d.digitChar := by
  induction n using Nat.strongRecOn with
  | ind n ih =>
    by_cases hn : n < 16
    · rw [digits, Nat.toDigits_of_lt_base hn, List.mem_singleton] at h
      exact ⟨n, hn, h⟩
    · rw [digits, Nat.toDigits_of_base_le (by decide) (Nat.le_of_not_lt hn), List.mem_append,
        List.mem_singleton] at h
      rcases h with h | rfl
      · exact ih (n / 16) (by omega) h
      · exact ⟨n % 16, Nat.mod_lt _ (by decide), rfl⟩

theorem newline_not_mem_fill (width n : Nat) : '\n' ∉ fill width (digits n) := by
  have hdigit : ∀ d < 16, Nat.digitChar d ≠ '\n' := by decide
  rw [fill, List.mem_append]
  rintro (hmem | hmem)
  · exact absurd (List.eq_of_mem_replicate hmem) (by decide)
  · obtain ⟨d, hd, hchar⟩ := exists_digitChar_of_mem_digits hmem
    exact hdigit d hd hchar.symm

theorem isOneLine_padded (width : Nat) (n : Int) : IsOneLine (padded width n) := by
  rw [padded, IsOneLine]
  split
  · rw [String.toList_ofList, List.mem_cons]
    exact not_or.2 ⟨by decide, newline_not_mem_fill _ _⟩
  · rw [String.toList_ofList]
    exact newline_not_mem_fill _ _

theorem isOneLine_byte (b : UInt8) : IsOneLine (byte b) := isOneLine_padded 2 _

theorem isOneLine_bytes (block : List UInt8) : IsOneLine (bytes block) :=
  .join (List.forall_mem_map.2 fun b _ => isOneLine_byte b)

end Hex

end Text

namespace Instruction

open Text

/-- A word is shown in one line. -/
theorem isOneLine_disassemble (opcode : Int) : IsOneLine (disassemble opcode) := by
  have htexts : ∀ row ∈ mnemonics, ∀ piece ∈ row.pieces,
      IsOneLine (match piece with | .text s => s | _ => "") := by
    decide +kernel
  rw [disassemble]
  split
  next row hrow =>
    refine .join (List.forall_mem_map.2 fun piece hpiece => ?_)
    have htext := htexts row (List.mem_of_find?_eq_some hrow) piece hpiece
    cases piece with
    | text s => exact htext
    | x | y | n | address => exact .append (by decide) (Hex.isOneLine_padded _ _)
    | byte => exact .append (by decide) (Hex.isOneLine_byte _)
  next => decide

end Instruction

namespace Machine

open Instruction Text

/-! ## Live or not -/

/-- The machine made live, or silent. -/
def withLive (m : Machine) (live : Bool) : Machine := { m with live }

/-- A skip does not depend on it. -/
theorem skipIf_withLive (m : Machine) (live condition : Bool) :
    (m.withLive live).skipIf condition = (m.skipIf condition).withLive live := by
  cases condition <;> rfl

/-- A look at the keypad does not depend on it. -/
theorem checkKeys_withLive (m : Machine) (live : Bool) :
    (m.withLive live).checkKeys = (m.checkKeys.1.withLive live, m.checkKeys.2) := by
  have hnew : (m.withLive live).newKey? = m.newKey? := rfl
  rw [checkKeys, hnew, checkKeys]
  cases m.newKey? <;> rfl

/-- Whether an instruction fails does not depend on it, nor why. -/
theorem failure?_withLive (m : Machine) (live : Bool) (i : Instruction) :
    (m.withLive live).failure? i = m.failure? i := by
  cases i <;> rfl

/-- **An instruction does the same whether or not the machine is live.** -/
theorem run_execute_withLive {m next : Machine} {i : Instruction}
    (hrun : (execute i).run m = .ok () next) (live : Bool) :
    (execute i).run (m.withLive live) = .ok () (next.withLive live) := by
  cases i with
  | ret =>
    obtain ⟨pc, rest, hentries, rfl⟩ := run_returnFromCall_eq_ok_iff.1 hrun
    exact run_returnFromCall_eq_ok_iff.2 ⟨pc, rest, hentries, rfl⟩
  | call target =>
    obtain ⟨hroom, rfl⟩ := run_callTo_eq_ok_iff.1 hrun
    exact run_callTo_eq_ok_iff.2 ⟨hroom, rfl⟩
  | skipIfByte | skipUnlessByte | skipIfEqual | skipUnlessEqual | skipIfKey | skipUnlessKey =>
    obtain ⟨⟩ := hrun
    exact congrArg (EStateM.Result.ok ()) (skipIf_withLive m live _)
  | draw x y rows =>
    obtain ⟨hrange, hside, rfl⟩ := run_drawAt_eq_ok_iff.1 hrun
    exact run_drawAt_eq_ok_iff.2 ⟨hrange, hside, rfl⟩
  | decimal x =>
    rw [run_decimal] at hrun ⊢
    obtain ⟨hrange, rfl⟩ := run_store_eq_ok_iff.1 hrun
    exact run_store_eq_ok_iff.2 ⟨hrange, rfl⟩
  | save x =>
    rw [run_save] at hrun ⊢
    obtain ⟨hrange, rfl⟩ := run_store_eq_ok_iff.1 hrun
    exact run_store_eq_ok_iff.2 ⟨hrange, rfl⟩
  | restore x =>
    obtain ⟨hrange, rfl⟩ := run_restoreFrom_eq_ok_iff.1 hrun
    exact run_restoreFrom_eq_ok_iff.2 ⟨hrange, rfl⟩
  | _ =>
    -- nothing can go wrong: the effect is a change of the machine
    obtain ⟨⟩ := hrun
    rfl

/-- The fault of a word that is no instruction does not depend on it. -/
theorem invalidOpcode_withLive (m : Machine) (live : Bool) :
    (m.withLive live).invalidOpcode = m.invalidOpcode := by
  have hdump : (m.withLive live).dump = m.dump := rfl
  have hstack : (m.withLive live).stackText = m.stackText := rfl
  rw [invalidOpcode, fullDump, hdump, hstack]
  rfl

/-- What becomes of a machine after a failure does not depend on it. -/
theorem afterFailure_withLive (m : Machine) (live : Bool) (failure : Failure) :
    (m.withLive live).afterFailure failure = (m.afterFailure failure).withLive live := by
  rw [afterFailure, afterFailure]
  split <;> rfl

/-! ## Side by side -/

/-- **A step does the same whether or not the machine is live**: it leaves the same machine, and
returns or fails alike. -/
theorem step_withLive (m : Machine) (live : Bool) :
    (m.withLive live).step.machine = m.step.machine.withLive live ∧
      (m.withLive live).step.result = m.step.result := by
  rcases m.step_cases with hwait | ⟨hidle, hrange⟩ | ⟨hidle, hrange, hrow⟩ |
    ⟨i, next, hbegins, hrun⟩ | ⟨i, failure, hbegins, hfailure⟩
  · have hstep : (m.withLive live).step = _ := step_of_wait hwait
    rw [hstep, step_of_wait hwait, checkKeys_withLive]
    generalize m.checkKeys = looked
    exact ⟨rfl, rfl⟩
  · have hstep : (m.withLive live).step = _ := step_of_not_inRange hidle hrange
    rw [hstep, step_of_not_inRange hidle hrange]
    exact ⟨rfl, rfl⟩
  · have hstep : (m.withLive live).step = _ := step_of_no_row hidle hrange hrow
    rw [hstep, step_of_no_row hidle hrange hrow]
    exact ⟨rfl, congrArg Except.error (invalidOpcode_withLive m.begun live)⟩
  · have hbegins' : (m.withLive live).Begins i := ⟨hbegins.idle, hbegins.inRange, hbegins.row⟩
    rw [step_of_ok hbegins' (run_execute_withLive hrun live), step_of_ok hbegins hrun]
    exact ⟨rfl, rfl⟩
  · have hbegins' : (m.withLive live).Begins i := ⟨hbegins.idle, hbegins.inRange, hbegins.row⟩
    have hfailure' : (m.withLive live).begun.failure? i = some failure :=
      (failure?_withLive m.begun live i).trans hfailure
    rw [step_of_failure hbegins' hfailure', step_of_failure hbegins hfailure]
    exact ⟨afterFailure_withLive m.begun live failure, rfl⟩

theorem after_withLive (m : Machine) (live : Bool) (move : Move) :
    (m.withLive live).after move = (m.after move).withLive live := by
  cases move with
  | step => exact (step_withLive m live).1
  | tick | setKey | releaseAll => rfl

/-- **A run leads to the same machine whether or not it is live.** -/
theorem run_withLive (m : Machine) (live : Bool) (moves : List Move) :
    (m.withLive live).run moves = (m.run moves).withLive live := by
  induction moves generalizing m with
  | nil => rfl
  | cons move moves ih => rw [run_cons, run_cons, after_withLive, ih]

/-- **A program makes the same machine whether or not it is to be live**, or none for the same
reason. -/
theorem build_withLive (program : List Int) (random : List UInt8) (live live' : Bool) :
    build program random live' = (build program random live).map (·.withLive live') := by
  rw [build, build, load_font]
  simp only [bind, Except.bind]
  cases fontMemory.load program programStart <;> rfl

/-! ## What is printed -/

/-- **The line of a word**: the registers, the index, the timers and the program counter as they are
before it runs, the word, and its text. -/
def lineBefore (m : Machine) (opcode : Int) : String :=
  "V: 0x" ++ Hex.bytes m.registers.toList.reverse ++ " I: 0x" ++ Hex.padded 4 m.index
    ++ " DT: 0x" ++ Hex.byte m.timers.delay ++ " DS: 0x" ++ Hex.byte m.timers.sound
    ++ " PC: 0x" ++ Hex.padded 3 m.pc ++ " OP: 0x" ++ Hex.padded 4 opcode
    ++ " IN: " ++ disassemble opcode

/-- The word that the next step fetches, if it does not wait and there is one. -/
def fetched? (m : Machine) : Option Int :=
  if m.wait.active then none else m.fetch.toOption

/-- **A live machine prints the line of the word that it fetches**, whether or not the word runs to
its end; a step that waits or fetches no word prints nothing. -/
theorem printed_step (m : Machine) :
    m.step.printed = if m.live then m.fetched?.map m.lineBefore else none := by
  have hline (opcode : Int) : (m.fetched opcode).liveLine =
      if m.live then some (m.lineBefore opcode) else none := rfl
  rw [step, fetched?]
  split
  · split <;> rfl
  rcases hfetch : m.fetch with failure | opcode
  · dsimp only
    split <;> rfl
  · have hprinted : (m.fetched opcode).runFetched.printed = (m.fetched opcode).liveLine := by
      rw [runFetched]
      split <;> rfl
    exact hprinted.trans (hline opcode)

/-- What a run prints, line by line. -/
def output (m : Machine) : List Move → List String
  | [] => []
  | .step :: moves => m.step.printed.toList ++ (m.after .step).output moves
  | move :: moves => (m.after move).output moves

/-- The words that a run fetches, each with the machine that is about to run it. -/
def fetches (m : Machine) : List Move → List (Machine × Int)
  | [] => []
  | .step :: moves => (m.fetched?.map (m, ·)).toList ++ (m.after .step).fetches moves
  | move :: moves => (m.after move).fetches moves

/-- **A run prints the lines of the words that it fetches**, if the machine is live. -/
theorem output_withLive (m : Machine) (live : Bool) (moves : List Move) :
    (m.withLive live).output moves =
      if live then (m.fetches moves).map fun fetch => fetch.1.lineBefore fetch.2 else [] := by
  induction moves generalizing m with
  | nil => cases live <;> rfl
  | cons move moves ih =>
    cases move with
    | step =>
      have hprinted : (m.withLive live).step.printed =
          if live then m.fetched?.map m.lineBefore else none := printed_step (m.withLive live)
      rw [output, fetches, hprinted, after_withLive, ih]
      cases live with
      | false => rfl
      | true => cases m.fetched? <;> rfl
    | tick | setKey | releaseAll =>
      rw [output, fetches, after_withLive, ih] <;> exact nofun

/-- The line of a word is a single line. -/
theorem isOneLine_lineBefore (m : Machine) (opcode : Int) : IsOneLine (m.lineBefore opcode) := by
  have hlabel {s : String} (hs : IsOneLine s) {label text : String} (hl : IsOneLine label)
      (ht : IsOneLine text) : IsOneLine (s ++ label ++ text) := (hs.append hl).append ht
  refine hlabel ?_ (by decide) (isOneLine_disassemble opcode)
  refine hlabel ?_ (by decide) (Hex.isOneLine_padded 4 opcode)
  refine hlabel ?_ (by decide) (Hex.isOneLine_padded 3 m.pc)
  refine hlabel ?_ (by decide) (Hex.isOneLine_byte m.timers.sound)
  refine hlabel ?_ (by decide) (Hex.isOneLine_byte m.timers.delay)
  refine hlabel ?_ (by decide) (Hex.isOneLine_padded 4 m.index)
  exact .append (by decide) (Hex.isOneLine_bytes _)

/-! ## What is different -/

/-- **A live machine differs from a silent one in what it prints, and in nothing else.**  A program
makes both or, for the same reason, neither.  Any run leads both to the same machine, and the next
step then returns the same value or fails with the same failure.

The silent machine prints nothing.  A step of the live one prints one line if it fetches a word, also
if the word then fails, and none if it waits or fetches nothing; the line shows what the silent machine
is like before the step. -/
theorem live_machine_only_prints (program : List Int) (random : List UInt8) :
    (∀ failure, build program random true = .error failure ↔
      build program random false = .error failure) ∧
    ∀ silent, build program random false = .ok silent →
      ∃ live, build program random true = .ok live ∧ ∀ moves,
        live.run moves = (silent.run moves).withLive true ∧
        (live.run moves).step.result = (silent.run moves).step.result ∧
        (live.run moves).step.printed =
          (silent.run moves).fetched?.map (silent.run moves).lineBefore ∧
        silent.output moves = [] ∧
        live.output moves = (silent.fetches moves).map (fun fetch => fetch.1.lineBefore fetch.2) ∧
        ∀ line ∈ live.output moves, IsOneLine line := by
  have hbuild := build_withLive program random false true
  refine ⟨fun failure => ?_, fun silent hsilent => ?_⟩
  · rw [hbuild]
    cases build program random false with
    | error failure' => exact Iff.rfl
    | ok m => exact iff_of_false nofun nofun
  · rw [hsilent] at hbuild
    have hsame : silent.withLive false = silent := by
      have hself := build_withLive program random false false
      rw [hsilent] at hself
      exact (Except.ok.inj hself).symm
    refine ⟨silent.withLive true, hbuild, fun moves => ?_⟩
    have houtput : (silent.withLive true).output moves = _ := output_withLive silent true moves
    refine ⟨run_withLive .., ?_, ?_, ?_, houtput, fun line hline => ?_⟩
    · rw [run_withLive, (step_withLive _ _).2]
    · rw [run_withLive, printed_step]
      rfl
    · rw [← hsame, output_withLive]
      rfl
    · rw [houtput] at hline
      obtain ⟨fetch, -, rfl⟩ := List.mem_map.1 hline
      exact isOneLine_lineBefore _ _

/-- A program sets a register, waits for a key, and returns from no call.  Seven moves take it past the
wait and to the return twice over: four lines are printed, none of them during the wait, and the last
two are of the return, which fails. -/
theorem live_machine_only_prints_failing :
    let silent := booted [0x60, 0x2A, 0xF1, 0x0A, 0x00, 0xEE] [] false
    let moves : List Move := [.step, .step, .step, .setKey 0x5 true, .step, .step, .step]
    ∃ live, build [0x60, 0x2A, 0xF1, 0x0A, 0x00, 0xEE] [] true = .ok live ∧
      live.run moves = (silent.run moves).withLive true ∧
      (live.run moves).step.result = .error (.machine .stackUnderflow) ∧
      (live.run moves).step.printed = some
        "V: 0x0000000000000000000000000000052a I: 0x0000 DT: 0x00 DS: 0x00 PC: 0x204 OP: 0x00ee IN: RET" ∧
      silent.output moves = [] ∧ (live.output moves).length = 4 := by
  intro silent moves
  have hfits : ([0x60, 0x2A, 0xF1, 0x0A, 0x00, 0xEE] : List UInt8).length ≤ 0xE00 := by decide
  have hbuild : build [0x60, 0x2A, 0xF1, 0x0A, 0x00, 0xEE] [] false = .ok silent :=
    build_bytes hfits [] false
  obtain ⟨-, hmirrors⟩ := live_machine_only_prints [0x60, 0x2A, 0xF1, 0x0A, 0x00, 0xEE] []
  obtain ⟨live, hlive, hruns⟩ := hmirrors silent hbuild
  obtain ⟨hrun, hresult, hprinted, hsilent, houtput, -⟩ := hruns moves
  have hfails : (silent.run moves).Begins .ret ∧
      (silent.run moves).begun.failure? .ret = some (.machine .stackUnderflow) := by decide +kernel
  refine ⟨live, hlive, hrun, hresult.trans ?_, hprinted.trans ?_, hsilent, ?_⟩
  · rw [step_of_failure hfails.1 hfails.2]
  · decide +kernel
  · rw [houtput, List.length_map]
    decide +kernel

end Machine

end ChipEight
