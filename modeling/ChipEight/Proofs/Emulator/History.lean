import ChipEight.Proofs.Emulator.Failing
import ChipEight.Proofs.Emulator.Trace

/-!
# Proofs/Emulator/History — calls in any order, and what they pass on to the devices

An emulator is called on for slices of time, frames, reports and the buzzer, in any order.  A call may
fail, and between two calls anything may become of the machine and of the devices, but for what a call
itself keeps: the pace, and whether the sound system is on.  A frame, a title and a change of the
buzzer are services; they are all that such a history passes on.

* `Host.services` — the part of a journal that is services;
* `Emulator.Performs` — one call, with the deeds in it: one deed if it succeeds, none if it fails;
* `Emulator.History` — **calls one after the other**;
* `History.related` — what every call keeps to, and what can be composed, a history keeps to;
* `Emulator.Elapses` — nothing happens but that time elapses, as in a slice that fails;
* `exists_history_run` — **a run is a history**, whatever ends it.
-/

namespace ChipEight

/-! ## Services -/

/-- Whether an event is a service: a frame, a title, or what becomes of the buzzer. -/
def Event.isService : Event → Bool
  | .refreshed | .titled _ | .buzzer _ | .soundCall _ => true
  | _ => false

/-- The services, the earliest first. -/
def Host.services (h : Host) : List Event := h.events.filter Event.isService

/-- What is read off services alone is read off the whole journal. -/
theorem Host.filterMap_services {α : Type} {f : Event → Option α}
    (hf : ∀ event, event.isService = false → f event = none) (h : Host) :
    h.services.filterMap f = h.events.filterMap f := by
  rw [services, List.filterMap_filter]
  refine congrArg (List.filterMap · h.events) (funext fun event => ?_)
  cases hservice : event.isService with
  | false => exact (hf event hservice).symm
  | true => rfl

@[simp] theorem Host.services_note (h : Host) (event : Event) :
    (h.note event).services = h.services ++ [event].filter Event.isService := by
  rw [services, events_note, List.filter_append, services]

@[simp] theorem Host.services_noteAll (h : Host) (events : List Event) :
    (h.noteAll events).services = h.services ++ events.filter Event.isService := by
  rw [services, events_noteAll, List.filter_append, services]

/-- What a program prints, or the display is called for, is no service. -/
theorem Host.services_noteAll_map (h : Host) {α : Type} {event : α → Event}
    (hevent : ∀ a, (event a).isService = false) (l : List α) :
    (h.noteAll (l.map event)).services = h.services := by
  have hnone : (l.map event).filter Event.isService = [] := by
    refine List.filter_eq_nil_iff.2 (List.forall_mem_map.2 fun a _ => ?_)
    rw [hevent a]
    exact Bool.false_ne_true
  rw [services_noteAll, hnone, List.append_nil]

/-- A pace starts with the buzzer off and nothing counted. -/
theorem Pace.counts_of_start {p : Pace} {speed : Option Quantity} (h : start speed = .ok p) :
    p.buzzer = false ∧ p.frames = 0 ∧ p.ops = 0 := by
  rw [start] at h
  split at h
  · cases h
  · rw [← Except.ok.inj h]
    exact ⟨rfl, rfl, rfl⟩

namespace Emulator

/-! ## Calls -/

/-- **What may happen besides the calls**: anything that touches neither the pace nor the sound
system, and is no service.  The program, the timers and the keys may change at will. -/
structure Aside (e next : Emulator) : Prop where
  pace_eq : next.pace = e.pace
  sound_eq : next.sound = e.sound
  services_eq : next.host.services = e.host.services

/-- **A call that succeeded.** -/
inductive Deed where
  /-- A slice of time, with how many instructions it returned. -/
  | slice (before : Emulator) (ops : Nat) (after : Emulator)
  /-- The buzzer brought up to date. -/
  | buzzer (after : Emulator)
  | refresh
  | report

/-- **One call, or what happens besides the calls**, with the deeds in it. -/
inductive Performs : Emulator → List Deed → Emulator → Prop where
  | slice {e next : Emulator} {seconds : Quantity} {done : Nat × Int}
    (hrun : (advanceBy seconds).run e = .ok done next) : Performs e [.slice e done.1 next] next
  | fails {e next : Emulator} {seconds : Quantity} {failure : Failure}
    (hrun : (advanceBy seconds).run e = .error failure next) : Performs e [] next
  | buzzer {e next : Emulator} (hrun : updateBuzzer.run e = .ok () next) :
    Performs e [.buzzer next] next
  | refresh {e next : Emulator} (hrun : refreshDisplay.run e = .ok () next) :
    Performs e [.refresh] next
  | report {e next : Emulator} (hrun : reportPerformance.run e = .ok () next) :
    Performs e [.report] next
  | aside {e next : Emulator} (h : Aside e next) : Performs e [] next

/-- **Calls one after the other**, in any order, with the deeds in them. -/
inductive History (e : Emulator) : List Deed → Emulator → Prop where
  | nil : History e [] e
  | snoc {middle next : Emulator} {deeds more : List Deed} (h : History e deeds middle)
    (hlast : Performs middle more next) : History e (deeds ++ more) next

namespace History

variable {e middle next : Emulator} {deeds more : List Deed}

theorem single (h : Performs e deeds next) : History e deeds next := .snoc .nil h

/-- Calls, and calls after them. -/
theorem trans (h : History e deeds middle) (h' : History middle more next) :
    History e (deeds ++ more) next := by
  induction h' with
  | nil => rwa [List.append_nil]
  | snoc _ hlast ih =>
    rw [← List.append_assoc]
    exact .snoc ih hlast

/-- **What every call keeps to, a history keeps to**, if it can be composed. -/
theorem related {R : Emulator → List Deed → Emulator → Prop} (hrefl : ∀ e, R e [] e)
    (htrans : ∀ {e deeds middle more next}, R e deeds middle → R middle more next →
      R e (deeds ++ more) next)
    (hperform : ∀ {e deeds next}, Performs e deeds next → R e deeds next)
    (h : History e deeds next) : R e deeds next := by
  induction h with
  | nil => exact hrefl e
  | snoc _ hlast ih => exact htrans ih (hperform hlast)

end History

/-! ## What a call passes on -/

/-- **Time elapses**: of what calls keep only the clocks have moved on, and nothing is passed on. -/
structure Elapses (e next : Emulator) : Prop where
  pace_eq : next.pace = { e.pace with
    elapsed := next.pace.elapsed
    stepsDone := next.pace.stepsDone
    ticksDone := next.pace.ticksDone }
  sound_eq : next.sound = e.sound
  services_eq : next.host.services = e.host.services

theorem Elapses.refl (e : Emulator) : Elapses e e := ⟨rfl, rfl, rfl⟩

theorem Aside.elapses {e next : Emulator} (h : Aside e next) : Elapses e next where
  pace_eq := by rw [h.pace_eq]
  sound_eq := h.sound_eq
  services_eq := h.services_eq

theorem elapses_waited (e : Emulator) (seconds : Float) : Elapses e (e.waited seconds) :=
  ⟨rfl, rfl, (Host.services_note ..).trans (List.append_nil _)⟩

/-- A burst passes on only what the program prints. -/
theorem elapses_afterBurst (e : Emulator) (seconds : Float) (budget : Nat) :
    Elapses e ((e.waited seconds).afterBurst budget) :=
  ⟨rfl, rfl, (Host.services_noteAll_map _ (fun _ => rfl) _).trans (elapses_waited ..).services_eq⟩

/-- **In a slice that fails time elapses**, and that is all. -/
theorem elapses_of_run_advanceBy {e next : Emulator} {seconds : Quantity} {failure : Failure}
    (h : (advanceBy seconds).run e = .error failure next) : Elapses e next := by
  rw [advanceBy, EStateM.run_bind] at h
  rcases htime : seconds.toFloat with other | time
  · rw [htime, run_attempt_error] at h
    obtain ⟨-, rfl⟩ := EStateM.Result.error.inj h
    exact .refl e
  rw [htime, run_attempt_ok] at h
  dsimp only at h
  rw [run_advance] at h
  rcases hsteps : (e.pace.wait time).stepsDue with other | stepsDue
  · rw [hsteps] at h
    obtain ⟨-, rfl⟩ := EStateM.Result.error.inj h
    exact elapses_waited e time
  rcases hticks : (e.pace.wait time).ticksDue with other | ticksDue
  · rw [hsteps, hticks] at h
    obtain ⟨-, rfl⟩ := EStateM.Result.error.inj h
    exact elapses_waited e time
  rcases hfailure : (e.machine.burst (stepsDue - e.pace.stepsDone).toNat).failure with _ | other
  · simp only [hsteps, hticks, hfailure] at h
    cases h
  · simp only [hsteps, hticks, hfailure] at h
    obtain ⟨-, rfl⟩ := EStateM.Result.error.inj h
    exact elapses_afterBurst ..

/-- A slice that succeeds leaves its emulator advanced, and returns what its burst has run. -/
theorem exists_advanced_of_run_advanceBy {e next : Emulator} {seconds : Quantity}
    {done : Nat × Int} (h : (advanceBy seconds).run e = .ok done next) :
    ∃ time stepsDue ticksDue, next = e.advanced time stepsDue ticksDue ∧
      done.1 = (e.machine.burst (stepsDue - e.pace.stepsDone).toNat).ops := by
  obtain ⟨time, -, hadvance⟩ := run_advanceBy_eq_ok_iff.1 h
  obtain ⟨stepsDue, ticksDue, -, -, -, rfl, rfl⟩ := run_advance_eq_ok_iff.1 hadvance
  exact ⟨time, stepsDue, ticksDue, rfl, rfl⟩

/-- **In a slice that succeeds time elapses**; then it comes to the buzzer, and counts what it
returns. -/
theorem exists_elapses_of_run_advanceBy {e next : Emulator} {seconds : Quantity}
    {done : Nat × Int} (h : (advanceBy seconds).run e = .ok done next) :
    ∃ ready, Elapses e ready ∧ next = ready.buzzed.counted done.1 := by
  obtain ⟨time, stepsDue, ticksDue, rfl, hops⟩ := exists_advanced_of_run_advanceBy h
  refine ⟨((e.waited time).afterBurst (stepsDue - e.pace.stepsDone).toNat).caughtUp
    stepsDue ticksDue, ⟨rfl, rfl, (elapses_afterBurst ..).services_eq⟩, ?_⟩
  rw [hops]
  rfl

/-- A frame is counted and passed on. -/
theorem eq_of_run_refreshDisplay {e next : Emulator} (h : refreshDisplay.run e = .ok () next) :
    next.pace = { e.pace with frames := e.pace.frames + 1 } ∧ next.sound = e.sound ∧
      next.host.services = e.host.services ++ [.refreshed] := by
  obtain rfl : left (refreshDisplay.run e) = next := congrArg left h
  have hlooked : (if e.display.hasScreen then e.host.takeScreen
      else (e.host.screen, e.host)).2.services = e.host.services := by
    rw [Host.takeScreen]
    split
    · split <;> rfl
    · rfl
  refine ⟨rfl, rfl, (Host.services_noteAll_map _ (fun _ => rfl) _).trans ?_⟩
  exact (Host.services_note ..).trans (congrArg (· ++ _) hlooked)

/-- The counts are passed on in a title, and begun anew. -/
theorem eq_of_run_reportPerformance {e next : Emulator}
    (h : reportPerformance.run e = .ok () next) :
    next.pace = { e.pace with frames := 0, ops := 0 } ∧ next.sound = e.sound ∧
      next.host.services = e.host.services ++ [.titled e.pace.report] := by
  obtain rfl : left (reportPerformance.run e) = next := congrArg left h
  refine ⟨rfl, rfl, (Host.services_noteAll_map _ (fun _ => rfl) _).trans ?_⟩
  exact Host.services_note ..

/-! ## A run -/

/-- There is a history from one emulator to another. -/
def Leads (e next : Emulator) : Prop := ∃ deeds, History e deeds next

namespace Leads

variable {α β : Type}

theorem refl (e : Emulator) : Leads e e := ⟨[], .nil⟩

theorem trans {e middle next : Emulator} (h : Leads e middle) (h' : Leads middle next) :
    Leads e next :=
  let ⟨_, hfirst⟩ := h
  let ⟨_, hsecond⟩ := h'
  ⟨_, hfirst.trans hsecond⟩

theorem of_performs {e next : Emulator} {deeds : List Deed} (h : Performs e deeds next) :
    Leads e next := ⟨deeds, .single h⟩

theorem bind {act : Act α} {next : α → Act β} (hact : Keeps Leads act)
    (hnext : ∀ a, Keeps Leads (next a)) : Keeps Leads (act >>= next) :=
  Keeps.bind (R := Leads) (fun _ _ _ => trans) hact hnext

theorem pure (a : α) : Keeps Leads (Pure.pure a : Act α) := Keeps.pure refl a

theorem attempt (result : Except Failure α) : Keeps Leads (ChipEight.attempt result) :=
  Keeps.attempt refl result

theorem readClock : Keeps Leads readClock := by
  intro e
  rw [run_readClock]
  rcases e.host.clock.read with _ | ⟨now, clock⟩
  · exact .refl e
  · refine .of_performs (.aside ⟨rfl, rfl, ?_⟩)
    exact (Host.services_note ..).trans (List.append_nil _)

theorem sleep (seconds : Float) : Keeps Leads (sleep seconds) := fun _ =>
  .of_performs (.aside ⟨rfl, rfl, (Host.services_note ..).trans (List.append_nil _)⟩)

theorem poll : Keeps Leads poll := by
  intro e
  obtain ⟨input, keypad, host, hleft, hjournal⟩ := left_poll e
  rw [hleft]
  refine .of_performs (.aside ⟨rfl, rfl, ?_⟩)
  change host.services = e.host.services
  rcases hjournal with hjournal | ⟨quit, hjournal⟩
  · rw [Host.services, Host.events, hjournal, Host.services, Host.events]
  · rw [Host.services, Host.events, hjournal, List.reverse_cons, List.filter_append]
    exact List.append_nil _

theorem advance (seconds : Float) : Keeps Leads (advance seconds) := by
  intro e
  have hby : (advanceBy (.real seconds)).run e = (Emulator.advance seconds).run e :=
    run_advanceBy_of_toFloat rfl
  rw [← hby]
  rcases hrun : (advanceBy (.real seconds)).run e with ⟨done, next⟩ | ⟨failure, next⟩
  · exact .of_performs (.slice hrun)
  · exact .of_performs (.fails hrun)

theorem serveFrame (d : Deadlines) (now : Float) : Keeps Leads (serveFrame d now) := by
  rw [Emulator.serveFrame]
  split
  · refine bind poll fun quit => ?_
    split
    · exact pure none
    · exact bind (fun e => of_performs (.refresh rfl)) fun _ => pure _
  · exact pure _

theorem serveReport (d : Deadlines) (now : Float) : Keeps Leads (serveReport d now) := by
  rw [Emulator.serveReport]
  split
  · exact bind (fun e => of_performs (.report rfl)) fun _ => pure _
  · exact pure d

theorem turn (d : Deadlines) : Keeps Leads (turn d) := by
  refine bind readClock fun now => bind (bind (serveFrame d now) fun served => ?_) fun worked => ?_
  · cases served with
    | none => exact pure none
    | some d => exact bind (serveReport d now) fun d => bind (advance _) fun _ => pure _
  · cases worked with
    | none => exact pure none
    | some d =>
      refine bind readClock fun later => bind ?_ fun _ => pure _
      rw [rest]
      split
      · exact sleep _
      · exact pure ()

theorem turns (d : Deadlines) (n : Nat) : Keeps Leads (turns d n) := by
  induction n generalizing d with
  | zero => exact Keeps.throw refl _
  | succ n ih =>
    refine bind (turn d) fun next => ?_
    cases next with
    | none => exact pure ()
    | some d => exact ih d

end Leads

/-- **A run is a history**, whatever ends it. -/
theorem exists_history_run (e : Emulator) : ∃ deeds, History e deeds (left (run.run e)) := by
  have hget : Keeps Leads (get : Act Emulator) := Leads.refl
  have hstart : Keeps Leads startRun :=
    Leads.bind Leads.readClock fun now => Leads.bind hget fun e =>
      Leads.bind (Leads.attempt _) fun speed => Leads.pure _
  exact Leads.bind hstart (fun d => Leads.bind hget fun e => Leads.turns d _) e

end Emulator

end ChipEight
