import ChipEight.Instruction.Dispatch
import ChipEight.Instruction.Mnemonic
import ChipEight.Machine.Dump
import ChipEight.Machine.Execute

/-!
# Machine/Step — one step of the machine

A step fetches the word at the program counter, moves the counter on, and runs the instruction.
While the machine waits for a key, a step only looks at the keypad.  A step always leaves a machine,
also when it fails; after a fault of the program the counter points at the instruction that failed.

* `step` — one step, with what it printed;
* `burst` — steps until a budget is spent, a step waits, or one fails.
-/

namespace ChipEight.Machine

open Instruction

/-! ## Waiting for a key -/

/-- The keys that have been down ever since the wait began. -/
def stillHeld (m : Machine) : KeySet :=
  m.wait.held.inter m.keypad

/-- The first key that is down and was not held all along. -/
def newKey? (m : Machine) : Option Digit :=
  (m.keypad.diff m.stillHeld).toList.head?

/-- A look at the keypad during a wait.  A new key ends the wait and goes into its register. -/
def checkKeys (m : Machine) : Machine × Bool :=
  match m.newKey? with
  | some k =>
    ({ m.setReg m.wait.register (UInt8.ofNat k.val) with
        wait := { m.wait with active := false, held := ∅ } }, true)
  | none => ({ m with wait := { m.wait with held := m.stillHeld } }, false)

/-! ## Fetching and running -/

/-- The number that two bytes spell, the first more significant. -/
def wordOf (block : List UInt8) : Int :=
  block.foldl (fun n b => 0x100 * n + b.toNat) 0

/-- The word at the program counter. -/
def fetch (m : Machine) : Except Failure Int := do
  return wordOf (← m.memory.readBlock m.pc 2)

/-- The fault of a word that is no instruction. -/
def invalidOpcode (m : Machine) : Failure :=
  .machine (.invalidOpcode m.opcode m.origin (m.fullDump unknown))

/-- The latest word run as an instruction. -/
def runOpcode : Effect := do
  let m ← get
  match decode? m.opcode with
  | some instruction => execute instruction
  | none => throw m.invalidOpcode

/-- What a step leaves behind. -/
structure Outcome where
  machine : Machine
  /-- The line that was printed, if one was. -/
  printed : Option String
  /-- Whether an instruction ran, or why none could. -/
  result : Except Failure Bool

/-- The line that a live machine prints of the word it has fetched. -/
def liveLine (m : Machine) : Option String :=
  if m.live then some (m.dump (disassemble m.opcode)) else none

/-- The machine after its instruction failed: a fault of the program puts the counter back. -/
def afterFailure (m : Machine) (failure : Failure) : Machine :=
  if failure.isMachineFault then { m with pc := m.origin } else m

/-- The machine with a word fetched, the program counter still on it. -/
def fetched (m : Machine) (opcode : Int) : Machine :=
  { m with origin := m.pc, opcode }

/-- A fetched word run, once the program counter has moved past it. -/
def runFetched (m : Machine) : Outcome :=
  match runOpcode.run m.advancePc with
  | .ok () next => ⟨next, m.liveLine, .ok true⟩
  | .error failure left => ⟨left.afterFailure failure, m.liveLine, .error failure⟩

/-- **One step.**  The result is whether an instruction ran. -/
def step (m : Machine) : Outcome :=
  if m.wait.active then ⟨m.checkKeys.1, none, .ok m.checkKeys.2⟩
  else
    match m.fetch with
    | .ok opcode => (m.fetched opcode).runFetched
    | .error failure => ⟨{ m with origin := m.pc }, none, .error failure⟩

/-! ## Several steps -/

/-- What several steps leave behind. -/
structure Burst where
  machine : Machine
  /-- How many instructions ran. -/
  ops : Nat
  /-- The lines that were printed, the latest first. -/
  printed : List String
  /-- Why the last step failed, if it did. -/
  failure : Option Failure

/-- Steps on from what has run so far, until the budget is spent, a step waits, or one fails. -/
def continueBurst (b : Burst) : Nat → Burst
  | 0 => b
  | budget + 1 =>
    let o := b.machine.step
    let printed := o.printed.toList ++ b.printed
    match o.result with
    | .ok true => continueBurst ⟨o.machine, b.ops + 1, printed, none⟩ budget
    | .ok false => ⟨o.machine, b.ops, printed, none⟩
    | .error failure => ⟨o.machine, b.ops, printed, some failure⟩

/-- Steps until the budget is spent, a step waits, or one fails. -/
def burst (m : Machine) (budget : Nat) : Burst :=
  continueBurst ⟨m, 0, [], none⟩ budget

end ChipEight.Machine
