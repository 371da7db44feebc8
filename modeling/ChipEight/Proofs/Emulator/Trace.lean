import ChipEight.Emulator.Loop
import ChipEight.Proofs.Emulator.Advance
import ChipEight.Proofs.Emulator.Left

/-!
# Proofs/Emulator/Trace — what an act does, event by event

Readings of the clock, polls, frames, titles, slices of time and sleeps are the trace of a run.  The
slices in it are what the elapsed time has grown by, and the readings in it are gone from the clock.

* `Host.trace` — the part of a journal that is the trace;
* `Emulator.Adds` — **some events lie between two emulators**;
* `Emulator.Ends`, `Does` — what an act has added when it returns, and when and why it fails;
* `Does.bind` — two acts add what the first adds and then what the second adds;
* `does_poll`, `does_advance`, … — what the single acts of a turn add.
-/

namespace ChipEight

/-! ## The trace -/

namespace Event

/-- Whether an event belongs to the trace. -/
def isTraced : Event → Bool
  | .clockRead _ | .polled _ | .refreshed | .titled _ | .advanced _ | .slept _ => true
  | _ => false

/-- Whether an event is a reading of the clock. -/
def isReading : Event → Bool
  | .clockRead _ => true
  | _ => false

/-- The time by which an event moves the machine on. -/
def seconds? : Event → Option Float
  | .advanced seconds => some seconds
  | _ => none

/-- What a device is called for, or a program prints, is not of the trace. -/
theorem filter_isTraced_map {α : Type} {event : α → Event}
    (huntraced : ∀ a, (event a).isTraced = false) (l : List α) :
    (l.map event).filter isTraced = [] := by
  refine List.filter_eq_nil_iff.2 (List.forall_mem_map.2 fun a _ => ?_)
  rw [huntraced a]
  exact Bool.false_ne_true

end Event

namespace Host

/-- The trace, the earliest first. -/
def trace (h : Host) : List Event := h.events.filter Event.isTraced

@[simp] theorem trace_note (h : Host) (event : Event) :
    (h.note event).trace = h.trace ++ [event].filter Event.isTraced := by
  rw [trace, events_note, List.filter_append, trace]

@[simp] theorem trace_noteAll (h : Host) (events : List Event) :
    (h.noteAll events).trace = h.trace ++ events.filter Event.isTraced := by
  rw [trace, events_noteAll, List.filter_append, trace]

/-- An event, and what a device is called for. -/
theorem trace_note_noteAll_map (h : Host) (event : Event) {α : Type} {call : α → Event}
    (huntraced : ∀ a, (call a).isTraced = false) (calls : List α) :
    ((h.note event).noteAll (calls.map call)).trace = h.trace ++ [event].filter Event.isTraced := by
  rw [trace_noteAll, Event.filter_isTraced_map huntraced, List.append_nil, trace_note]

end Host

namespace Emulator

/-! ## Events between two emulators -/

/-- The slices of time among some events, added to a time in their order. -/
def spend (elapsed : Float) (events : List Event) : Float :=
  (events.filterMap Event.seconds?).foldl (· + ·) elapsed

theorem spend_append (elapsed : Float) (events more : List Event) :
    spend elapsed (events ++ more) = spend (spend elapsed events) more := by
  rw [spend, List.filterMap_append, List.foldl_append]
  rfl

/-- **Some events lie between two emulators**: the trace has grown by them, the elapsed time by the
slices among them, and the clock has answered the readings among them. -/
structure Adds (e : Emulator) (events : List Event) (next : Emulator) : Prop where
  trace_eq : next.host.trace = e.host.trace ++ events
  elapsed_eq : next.pace.elapsed = spend e.pace.elapsed events
  remaining_eq : next.host.clock.remaining + events.countP Event.isReading = e.host.clock.remaining

namespace Adds

variable {e middle next : Emulator} {events more : List Event}

/-- What is between two emulators that differ in neither trace nor time. -/
theorem of_quiet (htrace : next.host.trace = e.host.trace)
    (helapsed : next.pace.elapsed = e.pace.elapsed) (hclock : next.host.clock = e.host.clock) :
    e.Adds [] next where
  trace_eq := by rw [htrace, List.append_nil]
  elapsed_eq := helapsed
  remaining_eq := by rw [hclock]; rfl

theorem refl (e : Emulator) : e.Adds [] e := of_quiet rfl rfl rfl

theorem trans (h : e.Adds events middle) (h' : middle.Adds more next) :
    e.Adds (events ++ more) next where
  trace_eq := by rw [h'.trace_eq, h.trace_eq, List.append_assoc]
  elapsed_eq := by rw [h'.elapsed_eq, h.elapsed_eq, spend_append]
  remaining_eq := by
    have hfirst := h.remaining_eq
    have hsecond := h'.remaining_eq
    rw [List.countP_append]
    omega

end Adds

/-! ## What acts add -/

section Does

variable {α β : Type}

/-- How an act ends: some events lie between the emulator it began with and the one it leaves.  They
have one property with what it returns, and another with its failure and the emulator left by that. -/
inductive Ends (e : Emulator) (Done : α → List Event → Prop)
    (Failed : Failure → Emulator → List Event → Prop) : EStateM.Result Failure Emulator α → Prop where
  | ok {a : α} {next : Emulator} (events : List Event) (hadds : e.Adds events next)
    (hdone : Done a events) : Ends e Done Failed (.ok a next)
  | error {failure : Failure} {last : Emulator} (events : List Event) (hadds : e.Adds events last)
    (hfailed : Failed failure last events) : Ends e Done Failed (.error failure last)

/-- **What an act adds** when it returns, and when and why it fails. -/
def Does (act : Act α) (Done : α → List Event → Prop)
    (Failed : Failure → Emulator → List Event → Prop) : Prop :=
  ∀ e : Emulator, e.Ends Done Failed (act.run e)

/-- How an act fails that does not. -/
def Never (_ : Failure) (_ : Emulator) (_ : List Event) : Prop := False

variable {Done : α → List Event → Prop} {Done' : β → List Event → Prop}
  {Failed Failed' : Failure → Emulator → List Event → Prop} {e middle : Emulator}

/-- An act that begins where other events have led. -/
theorem Ends.prepend {result : EStateM.Result Failure Emulator α} {events : List Event}
    (hadds : e.Adds events middle)
    (h : middle.Ends (fun a more => Done a (events ++ more))
      (fun failure last more => Failed failure last (events ++ more)) result) :
    e.Ends Done Failed result := by
  cases h with
  | ok more hmore hdone => exact .ok _ (hadds.trans hmore) hdone
  | error more hmore hfailed => exact .error _ (hadds.trans hmore) hfailed

namespace Does

theorem pure {a : α} (h : Done a []) : Does (Pure.pure a) Done Failed :=
  fun e => .ok [] (.refl e) h

theorem throw (failure : Failure) (h : ∀ last, Failed failure last []) :
    Does (MonadExcept.throw failure : Act α) Done Failed :=
  fun e => .error [] (.refl e) (h e)

/-- What an act that fails adds, and that it is this act which fails. -/
theorem with_cause {act : Act α} (h : Does act Done Failed) :
    Does act Done fun failure last events =>
      Failed failure last events ∧ ∃ ready, act.run ready = .error failure last := by
  intro e
  have hends := h e
  rcases hrun : act.run e with ⟨a, next⟩ | ⟨failure, last⟩ <;> rw [hrun] at hends
  · cases hends with
    | ok events hadds hdone => exact .ok events hadds hdone
  · cases hends with
    | error events hadds hfailed => exact .error events hadds ⟨hfailed, e, hrun⟩

/-- **Two acts add what the first adds and then what the second adds**; the second is not run if the
first fails. -/
theorem bind {act : Act α} {next : α → Act β} (hact : Does act Done Failed)
    (hfailed : ∀ failure last events, Failed failure last events → Failed' failure last events)
    (hnext : ∀ a events, Done a events → Does (next a) (fun b more => Done' b (events ++ more))
      fun failure last more => Failed' failure last (events ++ more)) :
    Does (act >>= next) Done' Failed' := by
  intro e
  rw [EStateM.run_bind]
  have hfirst := hact e
  rcases hrun : act.run e with ⟨a, middle⟩ | ⟨failure, middle⟩ <;> rw [hrun] at hfirst
  · cases hfirst with
    | ok events hadds hdone => exact (hnext a events hdone middle).prepend hadds
  · cases hfirst with
    | error events hadds hfails => exact .error events hadds (hfailed _ _ events hfails)

end Does

end Does

/-! ## Single acts -/

/-- The emulator once a reading has been taken. -/
def timed (e : Emulator) (now : Float) (clock : Clock) : Emulator :=
  { e with host := { e.host with clock }.note (.clockRead now) }

theorem run_readClock (e : Emulator) :
    readClock.run e =
      match e.host.clock.read with
      | none => .error .interrupted e
      | some (now, clock) => .ok now (e.timed now clock) := by
  simp only [readClock, EStateM.run_bind, EStateM.run_get]
  rcases e.host.clock.read with _ | ⟨now, clock⟩ <;> rfl

theorem adds_timed {e : Emulator} {now : Float} {clock : Clock}
    (hread : e.host.clock.read = some (now, clock)) :
    e.Adds [.clockRead now] (e.timed now clock) :=
  ⟨Host.trace_note .., rfl, Clock.remaining_read hread⟩

/-- A failure of an act because the clock does not answer. -/
structure Unanswered (failure : Failure) (last : Emulator) : Prop where
  failure_eq : failure = .interrupted
  read_eq : last.host.clock.read = none

/-- A reading of the clock, unless the clock does not answer. -/
theorem does_readClock :
    Does readClock (fun now events => events = [.clockRead now])
      fun failure last events => events = [] ∧ Unanswered failure last := by
  intro e
  rw [run_readClock]
  rcases hread : e.host.clock.read with _ | ⟨now, clock⟩
  · exact .error [] (.refl e) ⟨rfl, rfl, hread⟩
  · exact .ok [.clockRead now] (adds_timed hread) rfl

/-- A sleep. -/
theorem does_sleep (seconds : Float) :
    Does (sleep seconds) (fun _ events => events = [.slept seconds]) Never :=
  fun _ => .ok [.slept seconds] ⟨Host.trace_note .., rfl, rfl⟩ rfl

/-- A poll, unless the input system fails. -/
theorem does_poll :
    Does poll (fun quit events => events = [.polled quit])
      fun failure last events => events = [] ∧ ∃ ready, poll.run ready = .error failure last := by
  have hadds : Does poll (fun quit events => events = [.polled quit])
      fun _ _ events => events = [] := by
    intro e
    obtain ⟨input, keypad, host, hleft, hjournal, hclock⟩ := left_serveInput e
    have htrace : host.trace = e.host.trace := by
      rw [Host.trace, Host.events, hjournal, Host.trace, Host.events]
    simp only [poll, EStateM.run_bind]
    rcases hserve : serveInput.run e with ⟨quit, next⟩ | ⟨failure, last⟩
    · rw [hserve, left_ok] at hleft
      subst hleft
      refine .ok [.polled quit] ⟨?_, rfl, congrArg Clock.remaining hclock⟩ rfl
      exact (Host.trace_note ..).trans (congrArg (· ++ _) htrace)
    · rw [hserve, left_error] at hleft
      subst hleft
      exact .error [] (.of_quiet htrace rfl hclock) rfl
  exact hadds.with_cause

/-- A frame. -/
theorem does_refreshDisplay :
    Does refreshDisplay (fun _ events => events = [.refreshed]) Never := by
  intro e
  have hlooked : ∀ looked, looked = (if e.display.hasScreen then e.host.takeScreen
      else (e.host.screen, e.host)).2 →
      looked.trace = e.host.trace ∧ looked.clock = e.host.clock := by
    rintro - rfl
    rw [Host.takeScreen]
    split
    · split <;> exact ⟨rfl, rfl⟩
    · exact ⟨rfl, rfl⟩
  obtain ⟨htrace, hclock⟩ := hlooked _ rfl
  refine .ok [.refreshed] ⟨?_, rfl, congrArg Clock.remaining hclock⟩ rfl
  exact (Host.trace_note_noteAll_map _ .refreshed (fun _ => rfl) _).trans (congrArg (· ++ _) htrace)

/-- A title. -/
theorem does_reportPerformance :
    Does reportPerformance (fun _ events => ∃ title, events = [.titled title]) Never := by
  intro e
  refine .ok [.titled e.pace.report] ⟨?_, rfl, rfl⟩ ⟨_, rfl⟩
  exact Host.trace_note_noteAll_map _ (.titled e.pace.report) (fun _ => rfl) _

/-! ## A slice of time -/

/-- Its time counts as elapsed from the start of a slice on. -/
theorem adds_waited (e : Emulator) (seconds : Float) :
    e.Adds [.advanced seconds] (e.waited seconds) :=
  ⟨Host.trace_note .., rfl, rfl⟩

theorem adds_afterBurst (e : Emulator) (budget : Nat) : e.Adds [] (e.afterBurst budget) := by
  refine .of_quiet ?_ rfl rfl
  rw [afterBurst, Host.trace_noteAll, Event.filter_isTraced_map fun _ => rfl, List.append_nil]

theorem adds_buzzed (e : Emulator) : e.Adds [] e.buzzed := by
  rw [buzzed]
  split
  · refine .of_quiet ?_ rfl rfl
    exact (Host.trace_note_noteAll_map _ (.buzzer _) (fun _ => rfl) _).trans (List.append_nil _)
  · exact .refl e

theorem adds_advanced (e : Emulator) (seconds : Float) (stepsDue ticksDue : Int) :
    e.Adds [.advanced seconds] (e.advanced seconds stepsDue ticksDue) := by
  let budget := (stepsDue - e.pace.stepsDone).toNat
  have hburst := (e.adds_waited seconds).trans (adds_afterBurst _ budget)
  have hcaught : e.Adds [.advanced seconds]
      (((e.waited seconds).afterBurst budget).caughtUp stepsDue ticksDue) :=
    hburst.trans (.of_quiet rfl rfl rfl)
  exact (hcaught.trans (adds_buzzed _)).trans (.of_quiet rfl rfl rfl)

/-- **A slice of time**, whether or not it can be worked out and no step fails. -/
theorem does_advance (seconds : Float) :
    Does (advance seconds) (fun _ events => events = [.advanced seconds])
      fun failure last events => events = [.advanced seconds] ∧
        ∃ ready, (advance seconds).run ready = .error failure last := by
  have hadds : Does (advance seconds) (fun _ events => events = [.advanced seconds])
      fun _ _ events => events = [.advanced seconds] := by
    intro e
    have hburst (budget : Nat) :
        e.Adds [.advanced seconds] ((e.waited seconds).afterBurst budget) :=
      (e.adds_waited seconds).trans (adds_afterBurst _ budget)
    rw [run_advance]
    rcases (e.pace.wait seconds).stepsDue with failure | stepsDue
    · exact .error _ (e.adds_waited seconds) rfl
    rcases (e.pace.wait seconds).ticksDue with failure | ticksDue
    · exact .error _ (e.adds_waited seconds) rfl
    dsimp only
    split
    · exact .error _ (hburst _) rfl
    · exact .ok _ (e.adds_advanced seconds stepsDue ticksDue) rfl
  exact hadds.with_cause

end Emulator

end ChipEight
