import Mathlib.Tactic.Tauto
import ChipEight.Proofs.Machine.Run
import ChipEight.Proofs.Machine.Step

/-!
# Proofs/Machine/KeyWait — a wait for a key, and the looks at the keypad that it takes

A step of a waiting machine is a look at the keypad.  Between two looks keys go down and up unseen.
The machine remembers no look; it keeps one set, the keys that the looks so far have all found down
and that were down when the wait began.  The other keys are new.

* `step_of_newKey?_eq_some`, `step_of_newKey?_eq_none` — what a look finds, and what it leaves;
* `run_of_waiting` — the set that is kept is the intersection of the looks;
* `Executes.key_wait` — **a wait ends at the first look that finds a new key**, the smallest one.
-/

namespace ChipEight.Machine

open Instruction

variable {m : Machine}

/-! ## One look -/

/-- **A look takes the smallest key that is down and has not been held all along.** -/
theorem newKey?_eq_some_iff {k : Digit} :
    m.newKey? = some k ↔
      (k ∈ m.keypad ∧ k ∉ m.wait.held) ∧ ∀ j, j ∈ m.keypad ∧ j ∉ m.wait.held → k ≤ j := by
  have hnew (j : Digit) :
      j ∈ m.keypad.diff m.stillHeld ↔ j ∈ m.keypad ∧ j ∉ m.wait.held := by
    rw [stillHeld, KeySet.mem_diff, KeySet.mem_inter]
    tauto
  rw [newKey?, KeySet.head?_toList_eq_some_iff, hnew]
  exact and_congr_right fun _ => forall_congr' fun j => by rw [hnew]

/-- A look takes no key exactly if all that are down have been held all along. -/
theorem newKey?_eq_none_iff :
    m.newKey? = none ↔ ∀ k, ¬(k ∈ m.keypad ∧ k ∉ m.wait.held) := by
  rw [newKey?, KeySet.head?_toList_eq_none_iff]
  refine forall_congr' fun k => not_congr ?_
  rw [stillHeld, KeySet.mem_diff, KeySet.mem_inter]
  tauto

/-- A look that finds a new key puts it into the register and ends the wait. -/
theorem step_of_newKey?_eq_some {k : Digit} (hwait : m.wait.active = true)
    (h : m.newKey? = some k) :
    m.step = ⟨{ m.setReg m.wait.register (UInt8.ofNat k.val) with
      wait := ⟨false, m.wait.register, ∅⟩ }, none, .ok true⟩ := by
  rw [step_of_wait hwait, checkKeys, h]

/-- A look that finds none only lets go of the keys that are up. -/
theorem step_of_newKey?_eq_none (hwait : m.wait.active = true) (h : m.newKey? = none) :
    m.step = ⟨{ m with wait := { m.wait with held := m.stillHeld } }, none, .ok false⟩ := by
  rw [step_of_wait hwait, checkKeys, h]

/-- A look finds a new key, or says that it found none. -/
theorem newKey?_of_result (hwait : m.wait.active = true) (h : m.step.result = .ok false) :
    m.newKey? = none := by
  rcases hnew : m.newKey? with _ | k
  · rfl
  · rw [step_of_newKey?_eq_some hwait hnew] at h
    nomatch h

/-- **A look finds a new key exactly if one is down that has not been held all along.** -/
theorem result_step_of_wait (hwait : m.wait.active = true) :
    m.step.result = .ok true ↔ ∃ k, k ∈ m.keypad ∧ k ∉ m.wait.held := by
  rcases hnew : m.newKey? with _ | k
  · rw [step_of_newKey?_eq_none hwait hnew]
    have hnone := newKey?_eq_none_iff.1 hnew
    exact ⟨nofun, fun ⟨k, hk⟩ => absurd hk (hnone k)⟩
  · rw [step_of_newKey?_eq_some hwait hnew]
    exact ⟨fun _ => ⟨k, (newKey?_eq_some_iff.1 hnew).1⟩, fun _ => rfl⟩

/-! ## The looks of a run

As long as no look finds a new key, a run changes the keypad and the timers from outside, and the
machine itself only the set it keeps. -/

/-- The keys that were down at each step of a run. -/
def samples (m : Machine) : List Move → List KeySet
  | [] => []
  | .step :: moves => m.keypad :: (m.after .step).samples moves
  | move :: moves => (m.after move).samples moves

/-- The steps of a run all report that no instruction ran: a wait goes on. -/
def FindsNoKey (m : Machine) : List Move → Prop
  | [] => True
  | .step :: moves => m.step.result = .ok false ∧ (m.after .step).FindsNoKey moves
  | move :: moves => (m.after move).FindsNoKey moves

/-- The keys that every look has found down are those of the intersection. -/
theorem mem_foldl_inter {held : KeySet} {looks : List KeySet} {k : Digit} :
    k ∈ looks.foldl KeySet.inter held ↔ k ∈ held ∧ ∀ look ∈ looks, k ∈ look := by
  induction looks generalizing held with
  | nil => simp
  | cons look looks ih =>
    rw [List.foldl_cons, ih, KeySet.mem_inter, List.forall_mem_cons, and_assoc]

/-- **A wait that goes on keeps the intersection of its looks**, and leaves the rest of the machine
as it was. -/
theorem run_of_waiting {moves : List Move} (hwait : m.wait.active = true)
    (h : m.FindsNoKey moves) :
    m.run moves = { m with
      keypad := (m.run moves).keypad
      timers := (m.run moves).timers
      wait := { m.wait with held := (m.samples moves).foldl KeySet.inter m.wait.held } } := by
  induction moves generalizing m with
  | nil => rfl
  | cons move moves ih =>
    cases move with
    | step =>
      obtain ⟨hresult, hrest⟩ := h
      have hlook : m.after .step = { m with wait := { m.wait with held := m.stillHeld } } := by
        rw [after, step_of_newKey?_eq_none hwait (newKey?_of_result hwait hresult)]
      rw [run_cons, samples, List.foldl_cons, ih (by rw [hlook]; exact hwait) hrest, hlook]
      rfl
    | tick =>
      rw [run_cons, ih (m := m.after .tick) hwait h]
      rfl
    | setKey k down =>
      rw [run_cons, ih (m := m.after (.setKey k down)) hwait h]
      rfl
    | releaseAll =>
      rw [run_cons, ih (m := m.after .releaseAll) hwait h]
      rfl

/-! ## The law of the wait -/

/-- A key is new to a wait: it is down now, and was up when the wait began or at an earlier look. -/
def IsNewKey (began : KeySet) (looks : List KeySet) (now : KeySet) (k : Digit) : Prop :=
  k ∈ now ∧ (k ∉ began ∨ ∃ look ∈ looks, k ∉ look)

instance (began : KeySet) (looks : List KeySet) (now : KeySet) (k : Digit) :
    Decidable (IsNewKey began looks now k) :=
  inferInstanceAs (Decidable (k ∈ now ∧ (k ∉ began ∨ ∃ look ∈ looks, k ∉ look)))

/-- A machine that begins to wait keeps the keys that are down. -/
theorem Executes.machine_awaitKey {x : Digit} (h : m.Executes (.awaitKey x)) :
    m.step.machine = m.begun.beginWait x :=
  (EStateM.Result.ok.inj h.run).2.symm

/-- What a wait that goes on has left of the machine that began it. -/
theorem Executes.run_awaitKey {x : Digit} (h : m.Executes (.awaitKey x)) {moves : List Move}
    (hwaiting : m.step.machine.FindsNoKey moves) :
    m.step.machine.run moves = { m.step.machine with
      keypad := (m.step.machine.run moves).keypad
      timers := (m.step.machine.run moves).timers
      wait := ⟨true, x, (m.step.machine.samples moves).foldl KeySet.inter m.keypad⟩ } := by
  have hstart : m.step.machine.wait = ⟨true, x, m.keypad⟩ := by
    rw [h.machine_awaitKey]
    rfl
  have hrun := run_of_waiting (by rw [hstart]) hwaiting
  rw [hstart] at hrun
  exact hrun

/-- The keys that a look may take are the new ones. -/
theorem isNewKey_iff {began : KeySet} {looks : List KeySet} {now : KeySet} {k : Digit} :
    IsNewKey began looks now k ↔ k ∈ now ∧ k ∉ looks.foldl KeySet.inter began := by
  refine and_congr_right fun _ => ?_
  rw [mem_foldl_inter]
  by_cases hk : k ∈ began <;> simp [hk]

/-- **The law of the wait for a key.**  As long as no look has found a new key, the wait goes on; of
the machine nothing has changed but the keys that it keeps, which are those down at the beginning
and at every look, and what ticks and keys change from outside.  The next look ends the wait exactly
if it finds a new key: the smallest one goes into the register, and no keys are kept. -/
theorem Executes.key_wait {x : Digit} (h : m.Executes (.awaitKey x)) {moves : List Move}
    (hwaiting : m.step.machine.FindsNoKey moves) :
    let start := m.step.machine
    let now := start.run moves
    let isNew := IsNewKey m.keypad (start.samples moves) now.keypad
    now = { start with
      keypad := now.keypad, timers := now.timers, wait := ⟨true, x, now.wait.held⟩ } ∧
    (∀ k, k ∈ now.wait.held ↔ k ∈ m.keypad ∧ ∀ look ∈ start.samples moves, k ∈ look) ∧
    (now.step.result = .ok true ↔ ∃ k, isNew k) ∧
    (∀ k, isNew k → (∀ j, isNew j → k ≤ j) →
      now.step.machine = { now.setReg x (UInt8.ofNat k.val) with wait := ⟨false, x, ∅⟩ }) ∧
    ((∀ k, ¬isNew k) →
      now.step = ⟨{ now with wait := ⟨true, x, now.wait.held.inter now.keypad⟩ }, none,
        .ok false⟩) := by
  intro start now isNew
  have hnow := h.run_awaitKey hwaiting
  have hwait : now.wait = ⟨true, x, (start.samples moves).foldl KeySet.inter m.keypad⟩ :=
    congrArg Machine.wait hnow
  have hactive : now.wait.active = true := by rw [hwait]
  have hnew (k : Digit) : isNew k ↔ k ∈ now.keypad ∧ k ∉ now.wait.held := by
    rw [hwait]
    exact isNewKey_iff
  refine ⟨?_, fun k => ?_, ?_, fun k hk hmin => ?_, fun hnone => ?_⟩
  · rw [hwait]
    exact hnow
  · rw [hwait, mem_foldl_inter]
  · simp only [hnew]
    exact result_step_of_wait hactive
  · have hkey : now.newKey? = some k := newKey?_eq_some_iff.2
      ⟨(hnew k).1 hk, fun j hj => hmin j ((hnew j).2 hj)⟩
    rw [step_of_newKey?_eq_some hactive hkey, hwait]
  · have hkey : now.newKey? = none := newKey?_eq_none_iff.2 fun k hk => hnone k ((hnew k).2 hk)
    rw [step_of_newKey?_eq_none hactive hkey, stillHeld, hwait]

/-- Key 5 is down when the wait begins, comes up, and goes down again together with key 9: the look
after that takes key 5, the smaller one. -/
theorem Executes.key_wait_pressed_again :
    let m : Machine :=
      { ofParts ⟨#[0xF3, 0x0A]⟩ (.empty 16) .display [] false with
        pc := 0, keypad := KeySet.empty.insert 5 }
    let moves : List Move := [.step, .setKey 5 false, .tick, .step, .setKey 9 true, .setKey 5 true]
    m.Executes (.awaitKey 3) ∧ m.step.machine.FindsNoKey moves ∧
      (m.step.machine.run moves).step.machine.reg 3 = 5 := by
  intro m moves
  have hbegins : m.Executes (.awaitKey 3) := by decide +kernel
  have hlook (now : Machine) (h : now.wait.active = true ∧ now.newKey? = none) :
      now.step.result = .ok false := by
    rw [step_of_newKey?_eq_none h.1 h.2]
  have hwaiting : m.step.machine.FindsNoKey moves := by
    simp only [moves, FindsNoKey, and_true]
    exact ⟨hlook _ (by decide +kernel), hlook _ (by decide +kernel)⟩
  obtain ⟨-, -, -, htakes, -⟩ := hbegins.key_wait hwaiting
  have hnew : IsNewKey m.keypad (m.step.machine.samples moves)
      (m.step.machine.run moves).keypad 5 := by
    decide +kernel
  have hmin : ∀ j, IsNewKey m.keypad (m.step.machine.samples moves)
      (m.step.machine.run moves).keypad j → 5 ≤ j := by
    decide +kernel
  have htaken (now : Machine) : (now.setReg 3 (UInt8.ofNat (5 : Digit).val)).reg 3 = 5 := by
    rw [reg_setReg, if_pos rfl]
    rfl
  have hend := htakes 5 hnew hmin
  refine ⟨hbegins, hwaiting, ?_⟩
  generalize (m.step.machine.run moves) = now at hend ⊢
  rw [hend]
  exact htaken now

end ChipEight.Machine
