import ChipEight.Input.Terminal
import ChipEight.Proofs.Input.Keymap

/-!
# Proofs/Input/Typed — what a typed character stands for, and what becomes of it

The reader takes characters in lower case and looks for ESC and CTRL-C before it looks into the
keymap.  The order matters for a keymap that has the codes of these two: its keys for them are never
typed.

* `asksToQuit_of_lowerCode` — no other character has the lower-case form of ESC or CTRL-C;
* `Keymap.typed?_eq_some_iff_of_parse` — any other stands for a key exactly if **it has the
  lower-case form of the key's field**;
* `TerminalInput.receive_of_asksToQuit`, `receive_of_typed?_eq_some`, `receive_of_typed?_eq_none` —
  the reader queues the mark, the key, or nothing.
-/

namespace ChipEight

open TerminalInput (asksToQuit)

/-! ## What a character stands for -/

/-- The characters that ask to quit are ESC and CTRL-C. -/
theorem asksToQuit_iff {code : Int} : asksToQuit code = true ↔ code = 27 ∨ code = 3 := by
  simp only [asksToQuit, Bool.or_eq_true, beq_iff_eq]

/-- A character asks to quit exactly if its lower-case form does. -/
theorem asksToQuit_of_lowerCode {code small : Int} (h : lowerCode code = .ok small) :
    asksToQuit small = asksToQuit code := by
  obtain ⟨hcode, -, rfl⟩ := lowerCode_eq_ok_iff.1 h
  rw [Bool.eq_iff_iff, asksToQuit_iff, asksToQuit_iff]
  rcases Text.smallLetter_eq_or code.toNat with hsame | ⟨hcapital, hsmall⟩ <;> omega

namespace Keymap

variable {keymap : Keymap} {code : Int} {k : Digit}

/-- The key that a typed character stands for.  The characters that ask to quit stand for none, also
if the keymap has their codes. -/
def typed? (keymap : Keymap) (code : Int) : Option Digit :=
  if asksToQuit code then none
  else
    match lowerCode code with
    | .ok small => keymap.key? small
    | .error _ => none

theorem typed?_of_asksToQuit (h : asksToQuit code = true) : keymap.typed? code = none :=
  if_pos h

/-- Other characters stand for the key of their lower-case form. -/
theorem typed?_eq_some_iff (h : asksToQuit code = false) :
    keymap.typed? code = some k ↔ ∃ small, lowerCode code = .ok small ∧ keymap.key? small = some k := by
  unfold typed?
  rw [if_neg (by rw [h]; exact Bool.false_ne_true)]
  cases lowerCode code <;> simp

/-- Negative numbers are no characters. -/
theorem typed?_of_neg (h : code < 0) : keymap.typed? code = none := by
  refine Option.eq_none_iff_forall_ne_some.2 fun k hk => ?_
  have hquit : asksToQuit code = false := by
    rw [Bool.eq_false_iff, Ne, asksToQuit_iff]
    omega
  obtain ⟨small, hsmall, -⟩ := (typed?_eq_some_iff hquit).1 hk
  exact absurd (lowerCode_eq_ok_iff.1 hsmall).1.1 (Int.not_le.2 h)

/-- **A character stands for a key exactly if it has the lower-case form of the key's field.** -/
theorem typed?_eq_some_iff_of_parse {text : String} (h : parse text true = .ok keymap)
    (hquit : asksToQuit code = false) :
    keymap.typed? code = some k ↔ ∃ field named, (fields text)[k.val]? = some field ∧
      Text.readInteger? field = some named ∧ lowerCode code = lowerCode named := by
  rw [typed?_eq_some_iff hquit]
  constructor
  · rintro ⟨small, hsmall, hkey⟩
    obtain ⟨field, hfield, hcode⟩ := (key?_eq_some_iff_of_parse h).1 hkey
    obtain ⟨named, hnamed, hlower⟩ := fieldCode_true_eq_ok_iff.1 hcode
    exact ⟨field, named, hfield, hnamed, hsmall.trans hlower.symm⟩
  · rintro ⟨field, named, hfield, hnamed, heq⟩
    obtain ⟨field', small, hfield', hcode⟩ := exists_fieldCode_of_parse h k
    obtain rfl := Option.some.inj (hfield.symm.trans hfield')
    obtain ⟨named', hnamed', hlower⟩ := fieldCode_true_eq_ok_iff.1 hcode
    obtain rfl := Option.some.inj (hnamed.symm.trans hnamed')
    exact ⟨small, heq.trans hlower, (key?_eq_some_iff_of_parse h).2 ⟨field, hfield, hcode⟩⟩

end Keymap

/-! ## What the reader and the polls do with it -/

namespace TerminalInput

variable (t : TerminalInput) {code : Int}

/-- A character that asks to quit is queued as a mark, and is the last. -/
theorem receive_of_asksToQuit (h : asksToQuit code = true) :
    t.receive code = .ok ({ t with queue := t.queue ++ [none] }, false) := by
  rcases asksToQuit_iff.1 h with rfl | rfl <;> rfl

/-- A character that stands for a key queues it. -/
theorem receive_of_typed?_eq_some {k : Digit} (h : t.keymap.typed? code = some k) :
    t.receive code = .ok (t.enqueue k, true) := by
  have hquit : asksToQuit code = false := Bool.eq_false_iff.2 fun hquit =>
    nomatch h.symm.trans (Keymap.typed?_of_asksToQuit hquit)
  obtain ⟨small, hsmall, hkey⟩ := (Keymap.typed?_eq_some_iff hquit).1 h
  have hcode : ¬code < 0 := Int.not_lt.2 (lowerCode_eq_ok_iff.1 hsmall).1.1
  simp [receive, hcode, hsmall, asksToQuit_of_lowerCode hsmall, hquit, hkey, bind, Except.bind,
    pure, Except.pure]

/-- Any other character changes nothing, though it may be one that the reader fails on. -/
theorem receive_of_typed?_eq_none (hquit : asksToQuit code = false)
    (h : t.keymap.typed? code = none) :
    t.receive code = .ok (t, true) ∨ ∃ failure, t.receive code = .error failure := by
  by_cases hcode : code < 0
  · exact .inl (if_pos hcode)
  cases hsmall : lowerCode code with
  | error failure =>
    exact .inr ⟨failure, by simp [receive, hcode, hsmall, bind, Except.bind]⟩
  | ok small =>
    have hkey : t.keymap.key? small = none := Option.eq_none_iff_forall_ne_some.2 fun k hk =>
      nomatch h.symm.trans ((Keymap.typed?_eq_some_iff hquit).2 ⟨small, hsmall, hk⟩)
    left
    simp [receive, hcode, hsmall, asksToQuit_of_lowerCode hsmall, hquit, hkey, bind, Except.bind,
      pure, Except.pure]

theorem keymap_enqueue (k : Digit) : (t.enqueue k).keymap = t.keymap := by
  unfold enqueue
  split <;> rfl

/-- No character tells the reader to stop. -/
theorem stopping_of_receive {next : TerminalInput} {goesOn : Bool}
    (h : t.receive code = .ok (next, goesOn)) : next.stopping = t.stopping := by
  cases hquit : asksToQuit code with
  | true =>
    rw [t.receive_of_asksToQuit hquit] at h
    obtain ⟨rfl, -⟩ := Prod.mk.inj (Except.ok.inj h)
    rfl
  | false =>
    cases htyped : t.keymap.typed? code with
    | some k =>
      rw [t.receive_of_typed?_eq_some htyped] at h
      obtain ⟨rfl, -⟩ := Prod.mk.inj (Except.ok.inj h)
      unfold enqueue
      split <;> rfl
    | none =>
      obtain hsame | ⟨failure, hfails⟩ := t.receive_of_typed?_eq_none hquit htyped
      · obtain ⟨rfl, -⟩ := Prod.mk.inj (Except.ok.inj (hsame.symm.trans h))
        rfl
      · cases hfails.symm.trans h

/-- A key that is queued is no mark. -/
theorem none_not_mem_enqueue (h : none ∉ t.queue) (k : Digit) : none ∉ (t.enqueue k).queue := by
  unfold enqueue
  split
  · simpa using h
  · exact h

/-- A poll asks to quit exactly if it meets a mark. -/
theorem drain_eq_true_iff {deadline : Float} {queue : List QueueEntry} :
    (t.drain deadline queue).2 = true ↔ none ∈ queue := by
  induction queue generalizing t with
  | nil => simp [drain]
  | cons entry rest ih =>
    cases entry with
    | none => simp [drain]
    | some k => simpa [drain] using ih (t.hold k deadline)

/-- What a poll makes of some entries does not depend on the queue, which it replaces. -/
theorem drain_withQueue (deadline : Float) (queue entries : List QueueEntry) :
    { t with queue }.drain deadline entries = t.drain deadline entries := by
  induction entries generalizing t with
  | nil => rfl
  | cons entry rest ih =>
    cases entry with
    | none => rfl
    | some k => exact ih (t.hold k deadline)

end TerminalInput

end ChipEight
