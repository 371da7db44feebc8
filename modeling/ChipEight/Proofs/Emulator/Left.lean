import ChipEight.Emulator

/-!
# Proofs/Emulator/Left — what an act leaves behind

An act leaves a state whether it returns or fails.

* `left` — the state that is left;
* `Keeps` — an act keeps to a relation between the state before it and the one it leaves;
* `Keeps.bind` — so do two acts one after the other, if the relation can be composed;
* `left_poll` — a poll leaves other keys, the rest of what the input system had to tell, and a note
  of itself.
-/

namespace ChipEight

/-- The state that is left, whatever the result. -/
def left {σ α : Type} : EStateM.Result Failure σ α → σ
  | .ok _ s => s
  | .error _ s => s

@[simp] theorem left_ok {σ α : Type} (a : α) (s : σ) : left (.ok a s) = s := rfl

@[simp] theorem left_error {σ α : Type} (failure : Failure) (s : σ) :
    left (.error failure s : EStateM.Result Failure σ α) = s := rfl

@[simp] theorem left_attempt {σ α : Type} (result : Except Failure α) (s : σ) :
    left ((attempt result : EStateM Failure σ α).run s) = s := by
  cases result <;> rfl

/-! ## Acts that keep to a relation -/

/-- **An act keeps to a relation** between the state before it and the one it leaves. -/
def Keeps {σ α : Type} (R : σ → σ → Prop) (act : EStateM Failure σ α) : Prop :=
  ∀ s, R s (left (act.run s))

namespace Keeps

variable {σ α β : Type} {R : σ → σ → Prop}

theorem pure (hrefl : ∀ s, R s s) (a : α) : Keeps R (Pure.pure a : EStateM Failure σ α) := hrefl

theorem throw (hrefl : ∀ s, R s s) (failure : Failure) :
    Keeps R (MonadExcept.throw failure : EStateM Failure σ α) := hrefl

theorem attempt (hrefl : ∀ s, R s s) (result : Except Failure α) :
    Keeps R (ChipEight.attempt result) := by
  intro s
  rw [left_attempt]
  exact hrefl s

/-- One act after another; the second is not run if the first fails. -/
theorem bind (htrans : ∀ s₁ s₂ s₃, R s₁ s₂ → R s₂ s₃ → R s₁ s₃) {act : EStateM Failure σ α}
    {next : α → EStateM Failure σ β} (hact : Keeps R act) (hnext : ∀ a, Keeps R (next a)) :
    Keeps R (act >>= next) := by
  intro s
  have hfirst := hact s
  rw [EStateM.run_bind]
  rcases hrun : act.run s with ⟨a, middle⟩ | ⟨failure, middle⟩
  · rw [hrun, left_ok] at hfirst
    exact htrans _ _ _ hfirst (hnext a middle)
  · rwa [hrun, left_error] at hfirst

end Keeps

namespace Emulator

/-! ## Polls -/

/-- The input system changes the keys that are down and itself; the window's part of it takes what
the window has to report from the host, which notes nothing and is not asked for the time. -/
theorem left_serveInput (e : Emulator) :
    ∃ (input : Input) (keypad : KeySet) (host : Host),
      left (serveInput.run e) = { e with input, machine := { e.machine with keypad }, host } ∧
        host.journal = e.host.journal ∧ host.clock = e.host.clock := by
  simp only [serveInput, EStateM.run_bind, EStateM.run_get]
  cases hinput : e.input with
  | none => exact ⟨e.input, e.machine.keypad, e.host, rfl, rfl, rfl⟩
  | window w =>
    refine ⟨_, _, e.host.takeWindowEvents.2, rfl, ?_⟩
    rw [Host.takeWindowEvents]
    split <;> exact ⟨rfl, rfl⟩
  | terminal t => exact ⟨_, _, e.host, rfl, rfl, rfl⟩
  | script polls =>
    refine ⟨.script polls.tail, (ScriptStep.play e.machine.keypad false (polls.headD [])).1, e.host,
      ?_, rfl, rfl⟩
    simp only [EStateM.run_bind, EStateM.run_set, left_attempt]

/-- **A poll changes only the keys that are down and the input system**, and notes itself unless it
fails. -/
theorem left_poll (e : Emulator) :
    ∃ (input : Input) (keypad : KeySet) (host : Host),
      left (poll.run e) = { e with input, machine := { e.machine with keypad }, host } ∧
        (host.journal = e.host.journal ∨
          ∃ quit, host.journal = .polled quit :: e.host.journal) := by
  obtain ⟨input, keypad, host, hleft, hjournal, -⟩ := left_serveInput e
  simp only [poll, EStateM.run_bind]
  rcases hserve : serveInput.run e with ⟨quit, next⟩ | ⟨failure, next⟩
  · rw [hserve, left_ok] at hleft
    subst hleft
    exact ⟨input, keypad, host.note (.polled quit), rfl, .inr ⟨quit, congrArg _ hjournal⟩⟩
  · rw [hserve, left_error] at hleft
    exact ⟨input, keypad, host, hleft, .inl hjournal⟩

end Emulator

end ChipEight
