import ChipEight.Proofs.Machine.KeyWait

/-!
# Proofs/Machine/KeyPress — presses during a wait for a key, and the ones that no look sees

A press is a change of a key from up to down; a wait only knows the keys that are down at its looks.
If a key comes up and goes down again between two looks, both find it down.  To the wait it is then a
key that was held all along, and the press is lost.

* `Press` — a key that goes down between two looks and is down at the second;
* `Executes.step_of_press` — **a press ends the wait exactly if the key has been seen up**, or if some
  other key is new.
-/

namespace ChipEight.Machine

open Instruction

variable {m : Machine} {before after moves more : List Move} {k : Digit}

/-! ## Runs in two parts -/

/-- The looks of a run are those of its parts, one after the other. -/
theorem samples_append (m : Machine) (moves more : List Move) :
    m.samples (moves ++ more) = m.samples moves ++ (m.run moves).samples more := by
  induction moves generalizing m with
  | nil => rfl
  | cons move moves ih =>
    cases move with
    | step => exact congrArg (m.keypad :: ·) (ih _)
    | tick | setKey | releaseAll => exact ih _

/-- A run finds no key if neither of its parts does. -/
theorem findsNoKey_append :
    m.FindsNoKey (moves ++ more) ↔ m.FindsNoKey moves ∧ (m.run moves).FindsNoKey more := by
  induction moves generalizing m with
  | nil => exact ⟨fun h => ⟨trivial, h⟩, And.right⟩
  | cons move moves ih =>
    cases move with
    | step => exact (and_congr_right fun _ => ih).trans and_assoc.symm
    | tick | setKey | releaseAll => exact ih

/-- Without a step there is no look, and so none that finds a key. -/
theorem unseen_of_forall_ne_step (m : Machine) (h : ∀ move ∈ moves, move ≠ .step) :
    m.samples moves = [] ∧ m.FindsNoKey moves := by
  induction moves generalizing m with
  | nil => exact ⟨rfl, trivial⟩
  | cons move moves ih =>
    obtain ⟨hmove, hrest⟩ := List.forall_mem_cons.1 h
    cases move with
    | step => exact absurd rfl hmove
    | tick | setKey | releaseAll => exact ih _ hrest

/-! ## Presses -/

/-- **A press**: a key that is up after some moves goes down, no step follows at once, and after more
moves the key is still down. -/
structure Press (m : Machine) (before after : List Move) (k : Digit) : Prop where
  up : k ∉ (m.run before).keypad
  noStep : ∀ move ∈ after, move ≠ .step
  down : k ∈ (m.run (before ++ .setKey k true :: after)).keypad

namespace Press

variable (h : m.Press before after k)
include h

/-- The press and what follows it take no look. -/
theorem forall_ne_step : ∀ move ∈ .setKey k true :: after, move ≠ .step :=
  List.forall_mem_cons.2 ⟨nofun, h.noStep⟩

/-- The looks up to a press are those before it. -/
theorem samples_eq :
    m.samples (before ++ .setKey k true :: after) = m.samples before := by
  rw [samples_append, (unseen_of_forall_ne_step _ h.forall_ne_step).1, List.append_nil]

/-- A wait that goes on until a press goes on over it. -/
theorem findsNoKey (hwaiting : m.FindsNoKey before) :
    m.FindsNoKey (before ++ .setKey k true :: after) :=
  findsNoKey_append.2 ⟨hwaiting, (unseen_of_forall_ne_step _ h.forall_ne_step).2⟩

end Press

/-- The look after a run that found no key ends the wait exactly if a key is new. -/
theorem Executes.result_step_of_waiting {x : Digit} (h : m.Executes (.awaitKey x))
    (hwaiting : m.step.machine.FindsNoKey moves) :
    (m.step.machine.run moves).step.result = .ok true ↔
      ∃ j, IsNewKey m.keypad (m.step.machine.samples moves) (m.step.machine.run moves).keypad j := by
  have hwait : (m.step.machine.run moves).wait =
      ⟨true, x, (m.step.machine.samples moves).foldl KeySet.inter m.keypad⟩ :=
    congrArg wait (h.run_awaitKey hwaiting)
  rw [result_step_of_wait (by rw [hwait]), hwait]
  exact exists_congr fun _ => isNewKey_iff.symm

/-- **What a press does to a wait.**  The look after the press ends the wait if the key was up when
the wait began or at one of the looks before.  If the key was down at the beginning and at every look,
the press itself changes nothing: the wait ends only if some other key is new. -/
theorem Executes.step_of_press {x : Digit} (h : m.Executes (.awaitKey x))
    (hwaiting : m.step.machine.FindsNoKey before)
    (hpress : m.step.machine.Press before after k) :
    let looks := m.step.machine.samples before
    let now := m.step.machine.run (before ++ .setKey k true :: after)
    now.step.result = .ok true ↔
      (k ∉ m.keypad ∨ ∃ look ∈ looks, k ∉ look) ∨
        ∃ j, j ≠ k ∧ IsNewKey m.keypad looks now.keypad j := by
  intro looks now
  have hresult : now.step.result = .ok true ↔ ∃ j, IsNewKey m.keypad looks now.keypad j := by
    rw [h.result_step_of_waiting (hpress.findsNoKey hwaiting), hpress.samples_eq]
  rw [hresult]
  constructor
  · rintro ⟨j, hj⟩
    by_cases hjk : j = k
    · exact .inl (hjk ▸ hj.2)
    · exact .inr ⟨j, hjk, hj⟩
  · rintro (hseen | ⟨j, -, hj⟩)
    · exact ⟨k, hpress.down, hseen⟩
    · exact ⟨j, hj⟩

/-- A machine about to wait for a key with a key down. -/
def holding (k : Digit) : Machine :=
  { ofParts ⟨#[0xF3, 0x0A]⟩ (.empty 16) .display [] false with
    pc := 0, keypad := KeySet.empty.insert k }

/-- Key 4 comes up, a look sees it up, and it goes down again: the press ends the wait. -/
theorem Executes.step_of_press_seen_up :
    let start := (holding 4).step.machine
    let before : List Move := [.setKey 4 false, .step]
    (holding 4).Executes (.awaitKey 3) ∧ start.FindsNoKey before ∧ start.Press before [.tick] 4 ∧
      (start.run (before ++ [.setKey 4 true, .tick])).step.result = .ok true := by
  intro start before
  have hbegins : (holding 4).Executes (.awaitKey 3) := by decide +kernel
  have hnone : (start.after (.setKey 4 false)).newKey? = none := by decide +kernel
  have hactive : (start.after (.setKey 4 false)).wait.active = true := by decide +kernel
  have hwaiting : start.FindsNoKey before := by
    simp only [before, FindsNoKey, and_true]
    rw [step_of_newKey?_eq_none hactive hnone]
  have hpress : start.Press before [.tick] 4 :=
    ⟨by decide +kernel, by decide, by decide +kernel⟩
  have hseen : ∃ look ∈ start.samples before, (4 : Digit) ∉ look := by decide +kernel
  exact ⟨hbegins, hwaiting, hpress,
    (hbegins.step_of_press hwaiting hpress).2 (.inl (.inr hseen))⟩

/-- Key 4 comes up and goes down again before the first look: **the press is lost.** -/
theorem Executes.step_of_press_unseen :
    let start := (holding 4).step.machine
    let before : List Move := [.setKey 4 false]
    (holding 4).Executes (.awaitKey 3) ∧ start.FindsNoKey before ∧ start.Press before [] 4 ∧
      (start.run (before ++ [.setKey 4 true])).step.result = .ok false := by
  intro start before
  have hnone : (start.run (before ++ [.setKey 4 true])).newKey? = none := by decide +kernel
  have hactive : (start.run (before ++ [.setKey 4 true])).wait.active = true := by decide +kernel
  have hpress : start.Press before [] 4 :=
    ⟨by decide +kernel, List.forall_mem_nil _, by decide +kernel⟩
  refine ⟨by decide +kernel, trivial, hpress, ?_⟩
  rw [step_of_newKey?_eq_none hactive hnone]

end ChipEight.Machine
