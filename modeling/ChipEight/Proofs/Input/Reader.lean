import Mathlib.Data.List.ReduceOption
import Mathlib.Logic.Relation
import ChipEight.Proofs.Input.Typed

/-!
# Proofs/Input/Reader — a reader and its polls, side by side

The reader looks whether it has been told to stop, waits for a character, and deals with it; then it
looks again.  A poll takes out one entry of the queue after the other.  Between any two of these steps
the other side may take any number of its own.

* `Exchange`, `Exchange.Step` — the two sides and what they have done, one step at a time;
* `Exchange.handle_cases` — what the reader does with a character;
* `Exchange.Step.codes_eq_or` — only a reader that waits reads;
* `Exchange.polled`, `Exchange.leads_polled` — **a poll alone** is a run of the exchange;
* `Exchange.ReadsOn`, `Exchange.readsOn` — and so is **a reader alone**.
-/

namespace ChipEight

open TerminalInput (asksToQuit capacity holdTime)

/-! ## The two sides at work -/

/-- Where the reader is. -/
inductive Stage where
  /-- About to look whether it has been told to stop. -/
  | looking
  /-- Waiting for a character. -/
  | waiting
  /-- About to deal with a character, with so many entries in the queue when it was read. -/
  | holding (code : Int) (atRead : Nat)
  /-- At its end. -/
  | ended

/-- The character that a reader has read and not dealt with. -/
def Stage.inHand : Stage → List Int
  | .holding code _ => [code]
  | .looking | .waiting | .ended => []

/-- A character that the reader has dealt with. -/
structure Receipt where
  code : Int
  /-- How many entries were in the queue when it was read. -/
  atRead : Nat
  /-- How many entries were in the queue when its key was put in, or dropped. -/
  atPut : Nat

/-- The key that a character has put into the queue. -/
def Receipt.key? (keymap : Keymap) (r : Receipt) : Option Digit :=
  if r.atPut < capacity then keymap.typed? r.code else none

/-- A reader and the polls of one terminal, with what they have done so far. -/
structure Exchange where
  input : TerminalInput
  stage : Stage
  /-- The time until which the poll that is going on holds keys down. -/
  deadline? : Option Float
  receipts : List Receipt
  /-- The keys that polls have taken out. -/
  taken : List Digit
  /-- What each poll has answered: whether to quit. -/
  answers : List Bool

namespace Exchange

/-- A terminal on which nothing has been typed, with its reader about to begin. -/
def start (keymap : Keymap) : Exchange :=
  ⟨.start keymap, .looking, none, [], [], []⟩

/-- The characters that have been read. -/
def codes (e : Exchange) : List Int :=
  e.receipts.map Receipt.code ++ e.stage.inHand

/-- The reader deals with a character. -/
def handle (e : Exchange) (code : Int) (atRead : Nat) : Exchange :=
  let receipts := e.receipts ++ [⟨code, atRead, e.input.queue.length⟩]
  match e.input.receive code with
  | .ok (input, goesOn) =>
    { e with input, receipts, stage := if goesOn then .looking else .ended }
  | .error _ => { e with receipts, stage := .ended }

/-- A poll takes out the first entry, or finds that there is none. -/
def take (e : Exchange) (deadline : Float) : Exchange :=
  match e.input.queue with
  | [] => { e with deadline? := none, answers := e.answers ++ [false] }
  | none :: rest =>
    { e with
      input := { e.input with queue := rest }
      deadline? := none
      answers := e.answers ++ [true] }
  | some k :: rest =>
    { e with
      input := { e.input.hold k deadline with queue := rest }
      taken := e.taken ++ [k] }

/-- **One step of either side.** -/
inductive Step : Exchange → Exchange → Prop where
  /-- The reader looks whether it has been told to stop. -/
  | look {e : Exchange} (hstage : e.stage = .looking) :
    Step e { e with stage := if e.input.stopping then .ended else .waiting }
  /-- The reader reads a character. -/
  | read {e : Exchange} (hstage : e.stage = .waiting) (code : Int) :
    Step e { e with stage := .holding code e.input.queue.length }
  /-- The reader deals with a character.  The mark waits for room in the queue. -/
  | handle {e : Exchange} {code : Int} {atRead : Nat} (hstage : e.stage = .holding code atRead)
    (hroom : asksToQuit code = true → e.input.queue.length < capacity) :
    Step e (e.handle code atRead)
  /-- A poll begins. -/
  | begin {e : Exchange} (hpoll : e.deadline? = none) (time : Float) :
    Step e { e with deadline? := some (time + holdTime) }
  /-- A poll goes on. -/
  | take {e : Exchange} {deadline : Float} (hpoll : e.deadline? = some deadline) :
    Step e (e.take deadline)
  /-- The reader is told to stop. -/
  | stop {e : Exchange} : Step e { e with input := e.input.stop }

/-- One exchange leads to another by steps of either side, in any order. -/
def Leads : Exchange → Exchange → Prop :=
  Relation.ReflTransGen Step

variable {e next later : Exchange} {keymap : Keymap} {code : Int} {atRead : Nat}

/-! ## What the reader does with a character -/

/-- **The reader queues the mark, or a key, or nothing.** -/
theorem handle_cases (e : Exchange) (code : Int) (atRead : Nat) :
    let receipts := e.receipts ++ [⟨code, atRead, e.input.queue.length⟩]
    (asksToQuit code = true ∧ e.handle code atRead = { e with
      input := { e.input with queue := e.input.queue ++ [none] }, stage := .ended, receipts }) ∨
    (asksToQuit code = false ∧ ∃ k, e.input.keymap.typed? code = some k ∧
      e.handle code atRead = { e with input := e.input.enqueue k, stage := .looking, receipts }) ∨
    (asksToQuit code = false ∧ e.input.keymap.typed? code = none ∧
      (e.handle code atRead = { e with stage := .looking, receipts } ∨
        e.handle code atRead = { e with stage := .ended, receipts })) := by
  by_cases hquit : asksToQuit code = true
  · left
    refine ⟨hquit, ?_⟩
    rw [handle, e.input.receive_of_asksToQuit hquit]
    rfl
  rw [Bool.not_eq_true] at hquit
  right
  cases htyped : e.input.keymap.typed? code with
  | some k =>
    left
    refine ⟨hquit, k, rfl, ?_⟩
    rw [handle, e.input.receive_of_typed?_eq_some htyped]
    rfl
  | none =>
    right
    refine ⟨hquit, rfl, ?_⟩
    rw [handle]
    rcases e.input.receive_of_typed?_eq_none hquit htyped with hreceive | ⟨failure, hreceive⟩
    · exact .inl (by rw [hreceive]; rfl)
    · exact .inr (by rw [hreceive])

/-- What has changed otherwise once a character has been dealt with. -/
theorem handle_rest (e : Exchange) (code : Int) (atRead : Nat) :
    let next := e.handle code atRead
    next.input.keymap = e.input.keymap ∧ next.stage.inHand = [] ∧ next.taken = e.taken ∧
      next.receipts = e.receipts ++ [⟨code, atRead, e.input.queue.length⟩] := by
  obtain ⟨-, h⟩ | ⟨-, k, -, h⟩ | ⟨-, -, h | h⟩ := e.handle_cases code atRead <;> rw [h]
  · exact ⟨rfl, rfl, rfl, rfl⟩
  · exact ⟨e.input.keymap_enqueue k, rfl, rfl, rfl⟩
  · exact ⟨rfl, rfl, rfl, rfl⟩
  · exact ⟨rfl, rfl, rfl, rfl⟩

/-- The keys in the queue once a character has been dealt with: its own comes last, unless the queue
was full. -/
theorem keys_handle (e : Exchange) (code : Int) (atRead : Nat) :
    (e.handle code atRead).input.queue.reduceOption = e.input.queue.reduceOption ++
      (Receipt.key? e.input.keymap ⟨code, atRead, e.input.queue.length⟩).toList := by
  unfold Receipt.key?
  obtain ⟨hquit, h⟩ | ⟨-, k, htyped, h⟩ | ⟨-, htyped, h | h⟩ := e.handle_cases code atRead <;> rw [h]
  · rw [Keymap.typed?_of_asksToQuit hquit, ite_self, List.reduceOption_append,
      List.reduceOption_singleton]
  · rw [htyped, TerminalInput.enqueue]
    split
    · rw [List.reduceOption_append, List.reduceOption_singleton]
    · rw [Option.toList_none, List.append_nil]
  · rw [htyped, ite_self, Option.toList_none, List.append_nil]
  · rw [htyped, ite_self, Option.toList_none, List.append_nil]

/-- The queue never holds more than it can, as the mark waits for room. -/
theorem length_handle_le (hroom : asksToQuit code = true → e.input.queue.length < capacity)
    (h : e.input.queue.length ≤ capacity) :
    (e.handle code atRead).input.queue.length ≤ capacity := by
  obtain ⟨hquit, hhandle⟩ | ⟨-, k, -, hhandle⟩ | ⟨-, -, hhandle | hhandle⟩ :=
    e.handle_cases code atRead <;> rw [hhandle]
  · rw [List.length_append]
    exact hroom hquit
  · unfold TerminalInput.enqueue
    split
    · rw [List.length_append]
      assumption
    · exact h
  · exact h
  · exact h

/-! ## What each step leaves -/

/-- What a poll leaves as it was. -/
theorem take_rest (e : Exchange) (deadline : Float) :
    (e.take deadline).stage = e.stage ∧ (e.take deadline).receipts = e.receipts ∧
      (e.take deadline).input.stopping = e.input.stopping := by
  unfold Exchange.take
  split <;> exact ⟨rfl, rfl, rfl⟩

/-- **Only a reader that waits reads**, and what has been read stays. -/
theorem Step.codes_eq_or (hstep : Step e next) :
    next.codes = e.codes ∨
      e.stage = .waiting ∧ next.stage ≠ .waiting ∧ ∃ code, next.codes = e.codes ++ [code] := by
  unfold codes
  cases hstep with
  | look hstage =>
    left
    dsimp only
    rw [hstage]
    split <;> rfl
  | read hstage code =>
    right
    refine ⟨hstage, nofun, code, ?_⟩
    rw [hstage, Stage.inHand, Stage.inHand, List.append_nil]
  | @handle code atRead hstage =>
    left
    obtain ⟨-, hinHand, -, hreceipts⟩ := e.handle_rest code atRead
    rw [hinHand, hreceipts, hstage, Stage.inHand, List.map_append, List.map_singleton,
      List.append_nil]
  | take =>
    left
    obtain ⟨hstage, hreceipts, -⟩ := e.take_rest _
    rw [hstage, hreceipts]
  | begin | stop => exact .inl rfl

/-- **A reader that has been told to stop does not wait again.** -/
theorem Step.stopping (hstep : Step e next) (h : e.input.stopping = true) :
    next.input.stopping = true ∧ (next.stage = .waiting → e.stage = .waiting) := by
  cases hstep with
  | look =>
    refine ⟨h, fun hwaiting => ?_⟩
    rw [if_pos h] at hwaiting
    cases hwaiting
  | read => exact ⟨h, nofun⟩
  | @handle code atRead =>
    unfold Exchange.handle
    cases hreceive : e.input.receive code with
    | error failure => exact ⟨h, nofun⟩
    | ok result =>
      obtain ⟨input, goesOn⟩ := result
      exact ⟨(TerminalInput.stopping_of_receive _ hreceive).trans h, by cases goesOn <;> exact nofun⟩
  | take =>
    obtain ⟨hstage, -, hstopping⟩ := e.take_rest _
    rw [hstage, hstopping]
    exact ⟨h, id⟩
  | begin => exact ⟨h, id⟩
  | stop => exact ⟨rfl, id⟩

/-! ## One side alone -/

/-- The keys that a poll takes out of a queue: those up to the first mark. -/
def keysTaken (queue : List QueueEntry) : List Digit :=
  (queue.takeWhile Option.isSome).reduceOption

/-- A poll in progress that nothing interrupts takes out what there is, up to a mark. -/
theorem leads_drain {deadline : Float} (hpoll : e.deadline? = some deadline) :
    Leads e { e with
      input := (e.input.drain deadline e.input.queue).1
      deadline? := none
      taken := e.taken ++ keysTaken e.input.queue
      answers := e.answers ++ [(e.input.drain deadline e.input.queue).2] } := by
  have hstep : Step e (e.take deadline) := .take hpoll
  generalize hqueue : e.input.queue = queue
  induction queue generalizing e with
  | nil =>
    rw [Exchange.take, hqueue] at hstep
    rw [keysTaken, List.takeWhile_nil, List.reduceOption_nil, List.append_nil,
      TerminalInput.drain, ← hqueue]
    exact .single hstep
  | cons entry rest ih =>
    rw [Exchange.take, hqueue] at hstep
    cases entry with
    | none =>
      rw [keysTaken, List.takeWhile_cons_of_neg Bool.false_ne_true, List.reduceOption_nil,
        List.append_nil]
      exact .single hstep
    | some k =>
      have hrest := ih (e := { e with
        input := { e.input.hold k deadline with queue := rest }, taken := e.taken ++ [k] })
        hpoll (.take hpoll) rfl
      rw [TerminalInput.drain_withQueue, List.append_assoc] at hrest
      rw [keysTaken, List.takeWhile_cons_of_pos rfl, List.reduceOption_cons_of_some]
      exact .head hstep hrest

/-- The exchange after a poll that nothing interrupts. -/
def polled (e : Exchange) (keypad : KeySet) (begun emptied : Float) : Exchange :=
  let (input, _, quit) := e.input.poll keypad begun emptied
  { e with
    input
    taken := e.taken ++ keysTaken e.input.queue
    answers := e.answers ++ [quit] }

/-- **A poll is a run of the exchange** in which the reader does nothing. -/
theorem leads_polled (hpoll : e.deadline? = none) (keypad : KeySet) (begun emptied : Float) :
    Leads e (e.polled keypad begun emptied) := by
  have hdrain := leads_drain (e := { e with deadline? := some (begun + holdTime) }) rfl
  rw [← hpoll] at hdrain
  exact .head (.begin hpoll begun) hdrain

/-- A reader that has not been told to stop can deal with any character, if there is room for the
mark. -/
theorem leads_handle (hstage : e.stage = .looking) (hstopping : ¬e.input.stopping = true)
    (hroom : asksToQuit code = true → e.input.queue.length < capacity) :
    Leads e (e.handle code e.input.queue.length) := by
  have hlook : Step e { e with stage := .waiting } := by
    simpa only [if_neg hstopping] using Step.look hstage
  have hread : Leads e { e with stage := .holding code e.input.queue.length } :=
    .tail (.single hlook) (.read rfl code)
  exact .tail hread (.handle rfl hroom)

/-- **What a reader does with some characters while no poll happens** is a run of the exchange, up to
what it leaves behind.  It has read as many of them as it counts: all, unless it ends or has been told to
stop. -/
def ReadsOn (e : Exchange) (codes : List Int) : Prop :=
  let reading := e.input.readAll codes
  ∃ stage receipts,
    Leads e { e with input := reading.input, stage, receipts := e.receipts ++ receipts } ∧
    reading.count = receipts.length ∧ receipts.map Receipt.code = codes.take receipts.length ∧
    (e.input.stopping = false → stage ≠ .ended → receipts.length = codes.length)

/-- The exchange that a reader who has counted some characters already is a run of. -/
theorem leads_readOn {count : Nat} {codes : List Int} (hstage : e.stage = .looking)
    (hroom : (e.input.readOn count codes).input.queue.length ≤ capacity) :
    ∃ stage receipts, Leads e { e with
        input := (e.input.readOn count codes).input, stage, receipts := e.receipts ++ receipts } ∧
      (e.input.readOn count codes).count = count + receipts.length ∧
      receipts.map Receipt.code = codes.take receipts.length ∧
      (e.input.stopping = false → stage ≠ .ended → receipts.length = codes.length) := by
  have hsame (e : Exchange) : Leads e { e with receipts := e.receipts ++ [] } := by
    rw [List.append_nil]
    exact .refl
  induction codes generalizing e count with
  | nil => exact ⟨e.stage, [], hsame e, rfl, rfl, fun _ _ => rfl⟩
  | cons code rest ih =>
    rw [TerminalInput.readOn] at hroom ⊢
    by_cases hstopping : e.input.stopping = true
    · rw [if_pos hstopping]
      exact ⟨e.stage, [], hsame e, rfl, rfl, fun h => absurd hstopping (ne_true_of_eq_false h)⟩
    rw [if_neg hstopping] at hroom ⊢
    let first : Receipt := ⟨code, e.input.queue.length, e.input.queue.length⟩
    have hhandle (h : asksToQuit code = true → e.input.queue.length < capacity) :
        Leads e (e.handle code e.input.queue.length) :=
      leads_handle hstage hstopping h
    rw [handle] at hhandle
    cases hreceive : e.input.receive code with
    | error failure =>
      rw [hreceive] at hhandle
      refine ⟨.ended, [first], hhandle fun hquit => ?_, rfl, rfl, fun _ h => absurd rfl h⟩
      nomatch hreceive.symm.trans (e.input.receive_of_asksToQuit hquit)
    | ok result =>
      obtain ⟨input, goesOn⟩ := result
      rw [hreceive] at hhandle hroom
      cases goesOn with
      | false =>
        refine ⟨.ended, [first], hhandle fun hquit => ?_, rfl, rfl, fun _ h => absurd rfl h⟩
        rw [e.input.receive_of_asksToQuit hquit] at hreceive
        obtain ⟨rfl, -⟩ := Prod.mk.inj (Except.ok.inj hreceive)
        rw [List.length_append] at hroom
        exact hroom
      | true =>
        have hfirst := hhandle fun hquit =>
          nomatch hreceive.symm.trans (e.input.receive_of_asksToQuit hquit)
        obtain ⟨stage, receipts, hleads, hcount, hcodes, hall⟩ := ih (e := { e with
          input, stage := .looking, receipts := e.receipts ++ [first] }) rfl hroom
        refine ⟨stage, first :: receipts, hfirst.trans ?_, ?_, ?_, fun hgoing hstage' => ?_⟩
        · have happend := List.append_cons e.receipts first receipts
          rw [happend]
          exact hleads
        · rw [List.length_cons, Nat.add_comm receipts.length, ← Nat.add_assoc]
          exact hcount
        · rw [List.map_cons, List.length_cons, List.take_succ_cons, hcodes]
        · have hnext := (TerminalInput.stopping_of_receive _ hreceive).trans hgoing
          rw [List.length_cons, List.length_cons, hall hnext hstage']

/-- **A reader on a list of characters is a run of the exchange**, if there is room for the mark. -/
theorem readsOn {codes : List Int} (hstage : e.stage = .looking)
    (hroom : (e.input.readAll codes).input.queue.length ≤ capacity) : e.ReadsOn codes := by
  obtain ⟨stage, receipts, hleads, hcount, hrest⟩ := leads_readOn hstage hroom
  exact ⟨stage, receipts, hleads, hcount.trans (Nat.zero_add _), hrest⟩

end Exchange

end ChipEight
