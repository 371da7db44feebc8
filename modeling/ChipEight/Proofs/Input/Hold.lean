import Mathlib.Order.Fin.Basic
import ChipEight.Proofs.Input.Typed

/-!
# Proofs/Input/Hold — how long a typed key is held down

A terminal does not tell when a key comes up.  A poll takes keys out of the queue and gives each a new
deadline; then it holds down the keys whose deadline is still to come, and lets go of all others.  A
poll that meets the mark breaks off: the deadlines it has given stay, and so do the keypad and what
stands behind the mark.

A deadline is therefore as old as the **last** poll that took its key, whether that poll asked to quit
or not.  Nothing is assumed of the clock, which may well go back.

* `drain_of_mark`, `drain_of_no_mark` — what a poll takes out, and what it leaves;
* `get_deadlines_drain` — the deadlines it gives;
* `Polled.get_deadlines_after` — **the deadlines after any polls**, from the keys that each has taken;
* `Polled.held_since_last_taken` — which keys are down, and what the mark keeps as it was.
-/

namespace ChipEight.TerminalInput

/-! ## One poll -/

/-- The keys that a poll takes out of a queue: those in front of the first mark. -/
def keysTaken : List QueueEntry → List Digit
  | some k :: rest => k :: keysTaken rest
  | none :: _ | [] => []

section Drain

variable (t : TerminalInput) (deadline : Float) {queue : List QueueEntry}

/-- **A poll that meets the mark** leaves what stands behind it. -/
theorem drain_of_mark (h : none ∈ queue) :
    queue = (keysTaken queue).map some ++ none :: (t.drain deadline queue).1.queue := by
  induction queue generalizing t with
  | nil => nomatch h
  | cons entry rest ih =>
    cases entry with
    | none => rfl
    | some k =>
      have hrest : none ∈ rest := (List.mem_cons.1 h).resolve_left nofun
      exact congrArg (some k :: ·) (ih (t.hold k deadline) hrest)

/-- **A poll that meets no mark** takes out everything. -/
theorem drain_of_no_mark (h : none ∉ queue) :
    queue = (keysTaken queue).map some ∧ (t.drain deadline queue).1.queue = [] := by
  induction queue generalizing t with
  | nil => exact ⟨rfl, rfl⟩
  | cons entry rest ih =>
    cases entry with
    | none => exact absurd List.mem_cons_self h
    | some k =>
      obtain ⟨hkeys, hqueue⟩ := ih (t.hold k deadline) fun hrest => h (List.mem_cons_of_mem _ hrest)
      exact ⟨congrArg (some k :: ·) hkeys, hqueue⟩

/-- **The keys that are taken out get a new deadline**, and no others. -/
theorem get_deadlines_drain (queue : List QueueEntry) (k : Digit) :
    (t.drain deadline queue).1.deadlines.get k =
      if k ∈ keysTaken queue then deadline else t.deadlines.get k := by
  induction queue generalizing t with
  | nil => rfl
  | cons entry rest ih =>
    cases entry with
    | none => rfl
    | some j =>
      rw [drain, ih, hold, Digit.get_set, keysTaken]
      by_cases hrest : k ∈ keysTaken rest
      · rw [if_pos hrest, if_pos (List.mem_cons_of_mem j hrest)]
      · simp only [List.mem_cons, hrest, if_false, or_false, eq_comm]

end Drain

/-! ## Polls one after the other -/

/-- A poll that is to take place. -/
structure Poll where
  /-- What has been put into the queue since the poll before, up to the end of this one. -/
  arrived : List QueueEntry
  /-- The time when the poll begins. -/
  begun : Float
  /-- The time when it has emptied the queue. -/
  emptied : Float

/-- What a poll leaves: the terminal, the keypad, and whether to quit. -/
structure Polled where
  input : TerminalInput
  keypad : KeySet
  quit : Bool

/-- When a poll began, and the keys that it took. -/
structure Taking where
  begun : Float
  keys : List Digit

/-- When the last poll that took a key began. -/
def lastTaken? (takings : List Taking) (k : Digit) : Option Float :=
  (takings.filter (k ∈ ·.keys)).getLast?.map Taking.begun

/-- The last poll that took a key, with one more poll in front. -/
theorem lastTaken?_cons (taking : Taking) (takings : List Taking) (k : Digit) :
    lastTaken? (taking :: takings) k =
      (lastTaken? takings k).or (if k ∈ taking.keys then some taking.begun else none) := by
  simp only [lastTaken?, List.filter_cons, decide_eq_true_eq]
  split
  · rw [List.getLast?_cons]
    cases (takings.filter (k ∈ ·.keys)).getLast? <;> rfl
  · rw [Option.or_none]

namespace Polled

/-- A terminal on which nothing has been typed. -/
def start (keymap : Keymap) (keypad : KeySet) : Polled :=
  ⟨.start keymap, keypad, false⟩

variable (s : Polled) (p : Poll)

/-- What a poll finds in the queue: what is left there, and what has arrived. -/
def found : List QueueEntry :=
  s.input.queue ++ p.arrived

/-- **One more poll.** -/
def next : Polled :=
  let (input, keypad, quit) :=
    { s.input with queue := s.found p }.poll s.keypad p.begun p.emptied
  ⟨input, keypad, quit⟩

/-- Any number of polls. -/
def after (polls : List Poll) : Polled :=
  polls.foldl next s

/-- The keys that each poll takes. -/
def takings (s : Polled) : List Poll → List Taking
  | [] => []
  | p :: rest => ⟨p.begun, keysTaken (s.found p)⟩ :: (s.next p).takings rest

/-- The deadlines that a poll leaves. -/
theorem get_deadlines_next (k : Digit) :
    (s.next p).input.deadlines.get k =
      if k ∈ keysTaken (s.found p) then p.begun + holdTime else s.input.deadlines.get k :=
  get_deadlines_drain _ _ _ k

/-- **The deadlines after any polls**: each is as old as the last poll that took its key. -/
theorem get_deadlines_after (polls : List Poll) (k : Digit) :
    (s.after polls).input.deadlines.get k =
      ((lastTaken? (s.takings polls) k).map (· + holdTime)).getD (s.input.deadlines.get k) := by
  induction polls generalizing s with
  | nil => rfl
  | cons p rest ih =>
    change ((s.next p).after rest).input.deadlines.get k = _
    -- the deadline that the first poll gives stands only if no later poll gives one
    rw [ih, get_deadlines_next, takings, lastTaken?_cons]
    rcases lastTaken? ((s.next p).takings rest) k with _ | begun
    · split <;> rfl
    · rfl

/-- A poll asks to quit if it finds a mark. -/
theorem quit_next_iff : (s.next p).quit = true ↔ none ∈ s.found p :=
  drain_eq_true_iff _

/-- **Which keys are down** after a poll that does not ask to quit. -/
theorem mem_keypad_next_iff (h : (s.next p).quit = false) (k : Digit) :
    k ∈ (s.next p).keypad ↔ p.emptied < (s.next p).input.deadlines.get k := by
  have hkeypad : (s.next p).keypad =
      if (s.next p).quit then s.keypad else (s.next p).input.heldAt p.emptied := rfl
  rw [hkeypad, h, if_neg Bool.false_ne_true, heldAt, KeySet.mem_iff, KeySet.contains_ofPredicate,
    decide_eq_true_eq]

/-- **A poll that asks to quit** leaves the keypad as it was. -/
theorem keypad_next_of_quit (h : (s.next p).quit = true) : (s.next p).keypad = s.keypad :=
  if_pos h

/-- The deadlines on a terminal on which nothing had been typed. -/
theorem get_deadlines_after_start (keymap : Keymap) (keypad : KeySet) (polls : List Poll)
    (k : Digit) :
    ((start keymap keypad).after polls).input.deadlines.get k =
      ((lastTaken? ((start keymap keypad).takings polls) k).map (· + holdTime)).getD 0.0 := by
  have hstart : (start keymap keypad).input.deadlines.get k = 0.0 :=
    Vector.getElem_replicate k.isLt
  rw [get_deadlines_after, hstart]

/-- **Which keys are down.**  After any polls, a poll that does not ask to quit holds a key down if it
is over less than the hold time after the last poll that took the key has begun; a key that no poll
took has a deadline of zero.  A poll asks to quit if it finds the mark: it leaves the keypad as it was
and the queue behind the mark, and gives the keys in front of it their deadlines. -/
theorem held_since_last_taken (keymap : Keymap) (keypad : KeySet) (before : List Poll) (p : Poll) :
    let s := (start keymap keypad).after before
    let takings := (start keymap keypad).takings (before ++ [p])
    ((s.next p).quit = true ↔ none ∈ s.found p) ∧
    ((s.next p).quit = false →
      s.found p = (keysTaken (s.found p)).map some ∧ (s.next p).input.queue = [] ∧
      ∀ k, (∀ begun, lastTaken? takings k = some begun →
          (k ∈ (s.next p).keypad ↔ p.emptied < begun + holdTime)) ∧
        (lastTaken? takings k = none → (k ∈ (s.next p).keypad ↔ p.emptied < 0.0))) ∧
    ((s.next p).quit = true → (s.next p).keypad = s.keypad ∧
      s.found p = (keysTaken (s.found p)).map some ++ none :: (s.next p).input.queue ∧
      ∀ k, (s.next p).input.deadlines.get k =
        if k ∈ keysTaken (s.found p) then p.begun + holdTime else s.input.deadlines.get k) := by
  intro s takings
  have hdeadline (k : Digit) : (s.next p).input.deadlines.get k =
      ((lastTaken? takings k).map (· + holdTime)).getD 0.0 := by
    have hafter := get_deadlines_after_start keymap keypad (before ++ [p]) k
    rw [after, List.foldl_append] at hafter
    exact hafter
  refine ⟨s.quit_next_iff p, fun hstays => ?_, fun hquit => ?_⟩
  · have hnomark : none ∉ s.found p := by
      rw [← s.quit_next_iff p, hstays]
      exact Bool.false_ne_true
    obtain ⟨hkeys, hqueue⟩ := drain_of_no_mark { s.input with queue := s.found p }
      (p.begun + holdTime) hnomark
    refine ⟨hkeys, hqueue, fun k => ⟨fun begun hlast => ?_, fun hnever => ?_⟩⟩
    · rw [s.mem_keypad_next_iff p hstays, hdeadline, hlast]
      rfl
    · rw [s.mem_keypad_next_iff p hstays, hdeadline, hnever]
      rfl
  · exact ⟨s.keypad_next_of_quit p hquit, drain_of_mark _ _ ((s.quit_next_iff p).1 hquit),
      s.get_deadlines_next p⟩

/-- Key 5 is typed twice, key 7 and the mark after it, and key 1 behind the mark.  The poll that meets
the mark lets 7 wait; the next poll holds down all three, and no key that was not typed. -/
theorem held_since_last_taken_mark :
    let typed : Poll := ⟨[some 0x5], 1.0, 1.0⟩
    let marked : Poll := ⟨[some 0x5, some 0x7, none, some 0x1], 1.1, 1.1⟩
    let late : Poll := ⟨[], 1.25, 1.25⟩
    let s := (start ⟨[]⟩ ∅).after [typed]
    ((s.next marked).quit = true ∧ (s.next marked).keypad = s.keypad ∧
      (s.next marked).input.queue = [some 0x1] ∧
      (s.next marked).input.deadlines.get 0x7 = 1.1 + holdTime) ∧
    ((s.next marked).next late).quit = false ∧
      0x5 ∈ ((s.next marked).next late).keypad ∧ 0x7 ∈ ((s.next marked).next late).keypad ∧
      0x1 ∈ ((s.next marked).next late).keypad ∧ 0x2 ∉ ((s.next marked).next late).keypad := by
  intro typed marked late s
  obtain ⟨hmark, -, hquit⟩ := held_since_last_taken ⟨[]⟩ ∅ [typed] marked
  obtain ⟨hmark', hstays, -⟩ := held_since_last_taken ⟨[]⟩ ∅ [typed, marked] late
  have hmarked : (s.next marked).quit = true := hmark.2 (by decide)
  obtain ⟨hkeypad, hqueue, hdeadline⟩ := hquit hmarked
  have hlate : ((s.next marked).next late).quit = false :=
    Bool.eq_false_iff.2 (mt hmark'.1 (by decide))
  obtain ⟨-, -, hkeys⟩ := hstays hlate
  let front : List QueueEntry := [some 0x5, some 0x7, none]
  have hbehind : front ++ [some 0x1] = front ++ (s.next marked).input.queue := hqueue
  exact ⟨⟨hmarked, hkeypad, (List.append_cancel_left hbehind).symm, hdeadline 0x7⟩, hlate,
    ((hkeys 0x5).1 1.1 rfl).2 (by decide), ((hkeys 0x7).1 1.1 rfl).2 (by decide),
    ((hkeys 0x1).1 1.25 rfl).2 (by decide), fun h => absurd (((hkeys 0x2).2 rfl).1 h) (by decide)⟩

end Polled

end ChipEight.TerminalInput
