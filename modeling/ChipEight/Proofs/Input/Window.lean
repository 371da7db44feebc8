import Mathlib.Data.List.DropRight
import Mathlib.Tactic.Tauto
import ChipEight.Input.Window
import ChipEight.Proofs.Input.Keymap

/-!
# Proofs/Input/Window — which keys of a window are down, told from what the window has reported

The keys that are down could be told from the whole history of a window: a key is down if the latest
event that decides on it is a press.  To this a poll adds one thing, so that a tap can be noticed: a
key that was pressed in the latest poll, with the focus not lost since, stays down whatever came
after.
The input system keeps no history.  It keeps two sets, which say just enough of it.

* `poll_eq_filter` — a wish to quit is reported, and leaves the keys alone;
* `Tracks` — the two sets and the keypad say what the history says, and every event keeps it so;
* `key_down_iff_history` — hence **the keypad is what the history makes it**, after every poll.
-/

namespace ChipEight.WindowInput

/-- The keys of a window after some polls, from a start with no key touched. -/
def afterPolls (keymap : Keymap) (polls : List (List WindowEvent)) : Polling :=
  polls.foldl (fun p events => p.input.poll p.keypad events) ⟨start keymap, ∅, false⟩

theorem afterPolls_concat (keymap : Keymap) (polls : List (List WindowEvent))
    (events : List WindowEvent) :
    afterPolls keymap (polls ++ [events]) =
      (afterPolls keymap polls).input.poll (afterPolls keymap polls).keypad events := by
  rw [afterPolls, List.foldl_append]
  rfl

theorem poll_concat (w : WindowInput) (keypad : KeySet) (events : List WindowEvent)
    (event : WindowEvent) :
    w.poll keypad (events ++ [event]) = handle (w.poll keypad events) event := by
  rw [poll, List.foldl_append]
  rfl

/-! ## A wish to quit -/

/-- Whether an event asks to quit. -/
def asksToQuit (event : WindowEvent) : Bool :=
  event == .quit || event == .keyUp escapeCode

/-- A wish to quit changes nothing else. -/
theorem handle_of_asksToQuit {event : WindowEvent} (h : asksToQuit event = true) (p : Polling) :
    handle p event = { p with quit := true } := by
  rw [asksToQuit, Bool.or_eq_true, beq_iff_eq, beq_iff_eq] at h
  rcases h with rfl | rfl
  · rfl
  · rw [handle, if_pos rfl]

/-- Every other event does the same whether or not the user has asked to quit before. -/
theorem handle_of_not_asksToQuit {event : WindowEvent} (h : asksToQuit event = false) (p : Polling)
    (quit : Bool) : handle { p with quit } event = { handle p event with quit } := by
  cases event with
  | keyDown code =>
    simp only [handle]
    rcases p.input.keymap.key? code with _ | k
    · rfl
    · rfl
  | keyUp code =>
    have hcode : code ≠ escapeCode := by
      rintro rfl
      nomatch h
    simp only [handle, if_neg hcode]
    rcases p.input.keymap.key? code with _ | k
    · rfl
    · simp only [release]
      split
      · rfl
      · rfl
  | focusLost => rfl
  | quit => nomatch h
  | other => rfl

/-- **A poll reports whether any of its events asks to quit**, and does what the others do. -/
theorem poll_eq_filter (w : WindowInput) (keypad : KeySet) (events : List WindowEvent) :
    w.poll keypad events =
      { w.poll keypad (events.filter (!asksToQuit ·)) with quit := events.any asksToQuit } := by
  induction events using List.reverseRecOn with
  | nil => rfl
  | append_singleton events event ih =>
    rw [poll_concat, ih, List.filter_append, List.any_append]
    rcases Bool.eq_false_or_eq_true (asksToQuit event) with h | h
    · rw [handle_of_asksToQuit h]
      simp [h]
    · rw [handle_of_not_asksToQuit h]
      simp [h, poll_concat]

/-! ## What the history says of a key -/

/-- Whether an event decides on the key of a code: a press or a release of it, or the loss of the
focus. -/
def decides (code : Int) (event : WindowEvent) : Bool :=
  event == .keyDown code || event == .keyUp code || event == .focusLost

/-- The latest event that decides on the key of a code is a press. -/
def LastPressed (code : Int) (history : List WindowEvent) : Prop :=
  (history.filter (decides code)).getLast? = some (.keyDown code)

/-- The key of a code is pressed in some events, with the focus not lost after it. -/
def PressedSinceFocus (code : Int) (events : List WindowEvent) : Prop :=
  .keyDown code ∈ events.rtakeWhile (· != .focusLost)

instance (code : Int) (history : List WindowEvent) : Decidable (LastPressed code history) :=
  inferInstanceAs (Decidable (_ = _))

instance (code : Int) (events : List WindowEvent) : Decidable (PressedSinceFocus code events) :=
  inferInstanceAs (Decidable (_ ∈ _))

theorem lastPressed_concat {code : Int} {history : List WindowEvent} {event : WindowEvent} :
    LastPressed code (history ++ [event]) ↔
      event = .keyDown code ∨ (decides code event = false ∧ LastPressed code history) := by
  rw [LastPressed, List.filter_append]
  rcases Bool.eq_false_or_eq_true (decides code event) with h | h
  · simp [h]
  · have hne : event ≠ .keyDown code := by
      rintro rfl
      simp [decides] at h
    simp [h, hne, LastPressed]

theorem pressedSinceFocus_concat {code : Int} {events : List WindowEvent} {event : WindowEvent} :
    PressedSinceFocus code (events ++ [event]) ↔
      event = .keyDown code ∨ (event ≠ .focusLost ∧ PressedSinceFocus code events) := by
  by_cases h : event = .focusLost
  · subst h
    simp [PressedSinceFocus]
  · have hgoes : (event != .focusLost) = true := by simpa using h
    rw [PressedSinceFocus, List.rtakeWhile_concat, if_pos hgoes, List.mem_append,
      List.mem_singleton]
    simp [PressedSinceFocus, h, or_comm, eq_comm]

/-! ## The two sets say just enough of the history

The invariant of a key, in terms of what the polls before this one and the events of this one so far
say of it. -/

/-- **The keypad and the two sets say of a key what the history says.** -/
structure Tracks (code : Int) (k : Digit) (earlier events : List WindowEvent) (p : Polling) :
    Prop where
  /-- The key has this code and no other. -/
  key?_iff : ∀ other, p.input.keymap.key? other = some k ↔ other = code
  down_iff : k ∈ p.keypad ↔ PressedSinceFocus code events ∨ LastPressed code (earlier ++ events)
  fresh_iff : k ∈ p.input.fresh ↔ PressedSinceFocus code events
  /-- A release is held back if the key would be up by now. -/
  delayed_iff : k ∈ p.input.delayed ↔
    PressedSinceFocus code events ∧ ¬LastPressed code (earlier ++ events)

namespace Tracks

variable {code : Int} {k : Digit} {earlier events : List WindowEvent} {p : Polling}

/-- An event that decides on other keys only leaves what is said of this one. -/
theorem of_not_decides (h : Tracks code k earlier events p) {event : WindowEvent}
    (hother : decides code event = false) {next : Polling}
    (hkeymap : next.input.keymap = p.input.keymap)
    (hdown : k ∈ next.keypad ↔ k ∈ p.keypad) (hfresh : k ∈ next.input.fresh ↔ k ∈ p.input.fresh)
    (hdelayed : k ∈ next.input.delayed ↔ k ∈ p.input.delayed) :
    Tracks code k earlier (events ++ [event]) next := by
  have hpress : event ≠ .keyDown code := by
    rintro rfl
    simp [decides] at hother
  have hfocus : event ≠ .focusLost := by
    rintro rfl
    simp [decides] at hother
  have hsince : PressedSinceFocus code (events ++ [event]) ↔ PressedSinceFocus code events := by
    simp only [pressedSinceFocus_concat, hpress, hfocus, ne_eq, not_false_eq_true, true_and,
      false_or]
  have hlast : LastPressed code (earlier ++ (events ++ [event])) ↔
      LastPressed code (earlier ++ events) := by
    simp only [← List.append_assoc, lastPressed_concat, hpress, hother, true_and, false_or]
  exact ⟨hkeymap ▸ h.key?_iff, by rw [hdown, h.down_iff, hsince, hlast],
    by rw [hfresh, h.fresh_iff, hsince], by rw [hdelayed, h.delayed_iff, hsince, hlast]⟩

/-- A code that does not stand for the key is not its code. -/
theorem ne_code (h : Tracks code k earlier events p) {other : Int}
    (hother : p.input.keymap.key? other ≠ some k) : other ≠ code :=
  fun heq => hother ((h.key?_iff other).2 heq)

/-- A press of the key. -/
theorem press (h : Tracks code k earlier events p) :
    Tracks code k earlier (events ++ [.keyDown code]) (WindowInput.press p k) := by
  have hsince : PressedSinceFocus code (events ++ [.keyDown code]) :=
    pressedSinceFocus_concat.2 (.inl rfl)
  have hlast : LastPressed code (earlier ++ (events ++ [.keyDown code])) := by
    rw [← List.append_assoc, lastPressed_concat]
    exact .inl rfl
  refine ⟨h.key?_iff, ?_, ?_, ?_⟩
  · simp [WindowInput.press, hsince]
  · simp [WindowInput.press, hsince]
  · simp [WindowInput.press, hlast]

/-- A release of the key: it stays down, for now, if it has been pressed during this poll. -/
theorem release (h : Tracks code k earlier events p) :
    Tracks code k earlier (events ++ [.keyUp code]) (WindowInput.release p k) := by
  have hsince : PressedSinceFocus code (events ++ [.keyUp code]) ↔
      PressedSinceFocus code events := by
    simp [pressedSinceFocus_concat]
  have hlast : ¬LastPressed code (earlier ++ (events ++ [.keyUp code])) := by
    rw [← List.append_assoc, lastPressed_concat]
    simp [decides]
  have hfresh := h.fresh_iff
  have hdown := h.down_iff
  have hdelayed := h.delayed_iff
  rw [WindowInput.release]
  split
  · next hk =>
    rw [← KeySet.mem_iff, hfresh] at hk
    exact ⟨h.key?_iff, by simp [hdown, hsince, hk], by rw [hfresh, hsince],
      by simp [hsince, hlast, hk]⟩
  · next hk =>
    rw [← KeySet.mem_iff, hfresh] at hk
    exact ⟨h.key?_iff, by simp [hsince, hlast, hk], by rw [hfresh, hsince],
      by simp [hdelayed, hsince, hk]⟩

/-- **Every event keeps what is said of a key**, the code that asks to quit excepted. -/
theorem handle (h : Tracks code k earlier events p) (hescape : code ≠ escapeCode)
    (event : WindowEvent) : Tracks code k earlier (events ++ [event]) (handle p event) := by
  cases event with
  | keyDown other =>
    rw [WindowInput.handle]
    rcases hkey : p.input.keymap.key? other with _ | j
    · have hne : other ≠ code := h.ne_code (by simp [hkey])
      exact h.of_not_decides (by simp [decides, hne]) rfl Iff.rfl Iff.rfl Iff.rfl
    · by_cases hj : k = j
      · subst hj
        rw [(h.key?_iff other).1 hkey]
        exact h.press
      · have hne : other ≠ code := h.ne_code (by simp [hkey, Ne.symm hj])
        exact h.of_not_decides (by simp [decides, hne]) rfl (by simp [WindowInput.press, hj])
          (by simp [WindowInput.press, hj]) (by simp [WindowInput.press, hj])
  | keyUp other =>
    rw [WindowInput.handle]
    split
    · next hquit =>
      have hne : other ≠ code := fun heq => hescape (heq ▸ hquit)
      exact h.of_not_decides (by simp [decides, hne]) rfl Iff.rfl Iff.rfl Iff.rfl
    · rcases hkey : p.input.keymap.key? other with _ | j
      · have hne : other ≠ code := h.ne_code (by simp [hkey])
        exact h.of_not_decides (by simp [decides, hne]) rfl Iff.rfl Iff.rfl Iff.rfl
      · by_cases hj : k = j
        · subst hj
          rw [(h.key?_iff other).1 hkey]
          exact h.release
        · have hne : other ≠ code := h.ne_code (by simp [hkey, Ne.symm hj])
          refine h.of_not_decides (by simp [decides, hne]) ?_ ?_ ?_ ?_
          all_goals
            simp only [WindowInput.release]
            split
            all_goals simp [hj]
  | focusLost =>
    have hsince : ¬PressedSinceFocus code (events ++ [.focusLost]) := by
      simp [pressedSinceFocus_concat]
    have hlast : ¬LastPressed code (earlier ++ (events ++ [.focusLost])) := by
      rw [← List.append_assoc, lastPressed_concat]
      simp [decides]
    exact ⟨h.key?_iff, by simp [WindowInput.handle, hsince, hlast],
      by simp [WindowInput.handle, start, hsince], by simp [WindowInput.handle, start, hsince]⟩
  | quit | other => exact h.of_not_decides rfl rfl Iff.rfl Iff.rfl Iff.rfl

/-- A poll carries out the releases held back, and begins to count presses anew. -/
theorem beginPoll (h : Tracks code k earlier events p) :
    Tracks code k (earlier ++ events) [] (p.input.beginPoll p.keypad) := by
  have hsince : ¬PressedSinceFocus code [] := by simp [PressedSinceFocus]
  refine ⟨h.key?_iff, ?_, ?_, ?_⟩
  · simp only [WindowInput.beginPoll, KeySet.mem_diff, h.down_iff, h.delayed_iff, hsince,
      List.append_nil]
    tauto
  · simp [WindowInput.beginPoll, start, hsince]
  · simp [WindowInput.beginPoll, start, hsince]

/-- What is said of a key holds after a poll if it holds before. -/
theorem poll (h : Tracks code k earlier events p) (hescape : code ≠ escapeCode)
    (next : List WindowEvent) :
    Tracks code k (earlier ++ events) next (p.input.poll p.keypad next) := by
  induction next using List.reverseRecOn with
  | nil => exact h.beginPoll
  | append_singleton next event ih =>
    rw [poll_concat]
    exact ih.handle hescape event

/-- It holds at the start, where nothing has happened. -/
theorem nothing {keymap : Keymap} (h : ∀ other, keymap.key? other = some k ↔ other = code) :
    Tracks code k [] [] ⟨start keymap, ∅, false⟩ := by
  exact ⟨h, by simp [PressedSinceFocus, LastPressed], by simp [start, PressedSinceFocus],
    by simp [start, PressedSinceFocus]⟩

end Tracks

/-- **After every poll the keypad and the two sets say what the history says.** -/
theorem tracks_afterPolls {keymap : Keymap} {code : Int} {k : Digit}
    (h : ∀ other, keymap.key? other = some k ↔ other = code) (hescape : code ≠ escapeCode)
    (earlier : List (List WindowEvent)) (events : List WindowEvent) :
    Tracks code k earlier.flatten events (afterPolls keymap (earlier ++ [events])) := by
  rw [afterPolls_concat]
  induction earlier using List.reverseRecOn generalizing events with
  | nil => exact (Tracks.nothing h).poll hescape events
  | append_singleton earlier last ih =>
    have hbefore := ih last
    rw [List.flatten_append, List.flatten_singleton, afterPolls_concat]
    exact hbefore.poll hescape events

/-! ## Presses held back are of keys that are down -/

/-- Only fresh presses are held back, and their keys are down. -/
structure Coherent (p : Polling) : Prop where
  delayed_fresh : ∀ k ∈ p.input.delayed, k ∈ p.input.fresh
  fresh_down : ∀ k ∈ p.input.fresh, k ∈ p.keypad

theorem Coherent.press {p : Polling} (h : Coherent p) (k : Digit) : Coherent (press p k) := by
  refine ⟨fun j hj => ?_, fun j hj => ?_⟩
  · exact KeySet.mem_insert.2 (.inr (h.delayed_fresh j (KeySet.mem_erase.1 hj).2))
  · exact KeySet.mem_insert.2 ((KeySet.mem_insert.1 hj).imp_right (h.fresh_down j))

theorem Coherent.release {p : Polling} (h : Coherent p) (k : Digit) : Coherent (release p k) := by
  rw [WindowInput.release]
  split
  · next hk =>
    refine ⟨fun j hj => ?_, h.fresh_down⟩
    rcases KeySet.mem_insert.1 hj with rfl | hj
    · exact hk
    · exact h.delayed_fresh j hj
  · next hk =>
    refine ⟨h.delayed_fresh, fun j hj => KeySet.mem_erase.2 ⟨?_, h.fresh_down j hj⟩⟩
    rintro rfl
    exact hk hj

/-- Every event keeps it so. -/
theorem Coherent.handle {p : Polling} (h : Coherent p) (event : WindowEvent) :
    Coherent (handle p event) := by
  cases event with
  | keyDown code =>
    rw [WindowInput.handle]
    rcases p.input.keymap.key? code with _ | k
    · exact h
    · exact h.press k
  | keyUp code =>
    rw [WindowInput.handle]
    split
    · exact ⟨h.delayed_fresh, h.fresh_down⟩
    · rcases p.input.keymap.key? code with _ | k
      · exact h
      · exact h.release k
  | focusLost => exact ⟨by simp [WindowInput.handle, start], by simp [WindowInput.handle, start]⟩
  | quit => exact ⟨h.delayed_fresh, h.fresh_down⟩
  | other => exact h

/-- **After every poll only fresh presses are held back, and their keys are down.** -/
theorem coherent_poll (w : WindowInput) (keypad : KeySet) (events : List WindowEvent) :
    Coherent (w.poll keypad events) := by
  induction events using List.reverseRecOn with
  | nil => exact ⟨by simp [poll, beginPoll, start], by simp [poll, beginPoll, start]⟩
  | append_singleton events event ih =>
    rw [poll_concat]
    exact ih.handle event

/-! ## The keypad after a poll -/

/-- **The keypad is what the history makes it.**  In an accepted keymap every key has one code.
Unless that is the code that asks to quit, the key is down after a poll exactly if it has been
pressed in this poll with the focus not lost since, or the latest event of all that decides on it is
a press.  Only fresh presses are held back, and their keys are down.  The poll reports a wish to
quit exactly if the window is to be closed or the code that asks to quit comes up, and the events
around it are carried out as if it were not there. -/
theorem key_down_iff_history {text : String} {keymap : Keymap}
    (h : Keymap.parse text false = .ok keymap) (k : Digit) :
    ∃ code, (∀ other, keymap.key? other = some k ↔ other = code) ∧
      ∀ (earlier : List (List WindowEvent)) (events : List WindowEvent),
        let p := afterPolls keymap (earlier ++ [events])
        let unasked := afterPolls keymap (earlier ++ [events.filter (!asksToQuit ·)])
        (code ≠ escapeCode →
          (k ∈ p.keypad ↔
            PressedSinceFocus code events ∨ LastPressed code (earlier.flatten ++ events))) ∧
        (k ∈ p.input.delayed → k ∈ p.input.fresh) ∧ (k ∈ p.input.fresh → k ∈ p.keypad) ∧
        (p.quit = true ↔ .quit ∈ events ∨ .keyUp escapeCode ∈ events) ∧
        (p.keypad = unasked.keypad ∧ p.input = unasked.input) := by
  obtain ⟨code, hcode⟩ := Keymap.exists_code_of_parse h k
  refine ⟨code, hcode, fun earlier events => ?_⟩
  intro p unasked
  have hcoherent : Coherent p := by
    change Coherent (afterPolls keymap (earlier ++ [events]))
    rw [afterPolls_concat]
    exact coherent_poll _ _ _
  have hfilter : p = { unasked with quit := events.any asksToQuit } := by
    change afterPolls keymap (earlier ++ [events]) =
      { afterPolls keymap (earlier ++ [events.filter (!asksToQuit ·)]) with
        quit := events.any asksToQuit }
    rw [afterPolls_concat, afterPolls_concat, ← poll_eq_filter]
  refine ⟨fun hescape => (tracks_afterPolls hcode hescape earlier events).down_iff,
    hcoherent.delayed_fresh k, hcoherent.fresh_down k, ?_, ?_⟩
  · rw [hfilter]
    simp only [List.any_eq_true, asksToQuit, Bool.or_eq_true, beq_iff_eq]
    constructor
    · rintro ⟨event, hevent, rfl | rfl⟩
      · exact .inl hevent
      · exact .inr hevent
    · rintro (hevent | hevent)
      · exact ⟨_, hevent, .inl rfl⟩
      · exact ⟨_, hevent, .inr rfl⟩
  · rw [hfilter]
    exact ⟨rfl, rfl⟩

/-- A key tapped within one poll, in which the user asks to quit as well: it is down after that poll
and up after the next. -/
theorem key_down_iff_history_tap :
    let keymap : Keymap := ⟨[120, 49, 50, 51, 113, 119, 101, 97, 115, 100, 122, 99, 52, 114, 102,
      118].zip (List.finRange 16)⟩
    let tap : List WindowEvent := [.keyDown 120, .quit, .keyUp 120]
    Keymap.parse Keymap.usual false = .ok keymap ∧
      0 ∈ (afterPolls keymap [tap]).keypad ∧ (afterPolls keymap [tap]).quit = true ∧
      0 ∉ (afterPolls keymap [tap, []]).keypad := by
  intro keymap tap
  have hparse : Keymap.parse Keymap.usual false = .ok keymap := rfl
  obtain ⟨code, hcode, hlaw⟩ := key_down_iff_history hparse 0
  obtain rfl : 120 = code := (hcode 120).1 rfl
  obtain ⟨hdown, -, -, hquit, -⟩ := hlaw [] tap
  obtain ⟨hup, -⟩ := hlaw [tap] []
  have hescape : (120 : Int) ≠ escapeCode := by decide
  exact ⟨hparse, (hdown hescape).2 (by decide), hquit.2 (by decide), mt (hup hescape).1 (by decide)⟩

end ChipEight.WindowInput
