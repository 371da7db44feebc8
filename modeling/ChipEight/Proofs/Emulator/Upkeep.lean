import ChipEight.Emulator.Loop
import ChipEight.Proofs.Emulator.Advance
import ChipEight.Proofs.Emulator.Left

/-!
# Proofs/Emulator/Upkeep — a run neither opens its parts nor gives them back

What a run notes comes after what was noted before.  None of it opens a part or gives one back, and
the sound system and the display stay of their kinds, so whoever opened them can give them back in the
end.

* `Event.IsInner` — an event that neither opens a part nor gives one back;
* `Emulator.Follows` — only inner events in between, with parts of the same kinds;
* `isUpkeep_run` — **a run leaves an emulator that follows**, whatever ends it.
-/

namespace ChipEight

/-! ## Events -/

/-- Whether a call to the terminal system belongs to giving it back. -/
def TerminalCall.givesBack : TerminalCall → Bool
  | .immediate on => !on
  | .echo on => on
  | .showCursor on => on
  | .closeScreen => true
  | _ => false

/-- Whether a call of a display belongs to giving it back. -/
def DisplayCall.givesBack : DisplayCall → Bool
  | .window .close => true
  | .window _ => false
  | .terminal call => call.givesBack

/-- Whether a call of a sound system belongs to giving it back. -/
def SoundCall.givesBack : SoundCall → Bool
  | .mixer .close => true
  | _ => false

namespace Event

/-- The part that an event opens, if it opens one. -/
def opened? : Event → Option Part
  | .opened part => some part
  | _ => none

/-- Whether an event belongs to giving a part back. -/
def givesBack : Event → Bool
  | .closed _ => true
  | .displayCall call => call.givesBack
  | .soundCall call => call.givesBack
  | _ => false

/-- **An event that neither opens a part nor gives one back.** -/
def IsInner (event : Event) : Prop := event.opened? = none ∧ event.givesBack = false

end Event

/-! ## Calls while a part is open -/

theorem Sound.givesBack_changeCalls (kind : SoundKind) (was on : Bool) :
    ∀ call ∈ Sound.changeCalls kind was on, call.givesBack = false := by
  cases kind <;> cases was <;> cases on <;> simp [Sound.changeCalls, SoundCall.givesBack]

namespace TerminalDisplay

theorem givesBack_pixelWrites (t : TerminalDisplay) (pixels : Array Bool) :
    ∀ call ∈ t.pixelWrites pixels, call.givesBack = false := by
  intro call hmem
  obtain ⟨⟨lit, i⟩, -, hcall⟩ := List.mem_filterMap.1 hmem
  dsimp only at hcall
  split at hcall
  · rw [← Option.some.inj hcall]
    rfl
  · nomatch hcall

theorem givesBack_refresh (t : TerminalDisplay) (pixels : Array Bool) (screen : Int × Int)
    (canResize : Bool) :
    ∀ call ∈ (t.refresh pixels screen canResize).2, call.givesBack = false := by
  have hwrites : ∀ call ∈ (t.writeFrame pixels).2, call.givesBack = false := by
    rw [writeFrame]
    split
    · exact fun call hmem => nomatch hmem
    · exact t.givesBack_pixelWrites pixels
  have hfits (t : TerminalDisplay) :
      ∀ call ∈ (t.fitScreen screen canResize).2, call.givesBack = false := by
    rw [fitScreen]
    split
    · exact fun call hmem => nomatch hmem
    · cases canResize <;> simp [TerminalCall.givesBack]
  have hcopies (t : TerminalDisplay) : ∀ call ∈ t.flush.2, call.givesBack = false := by
    rw [flush]
    split <;> simp [TerminalCall.givesBack]
  intro call hmem
  rcases List.mem_append.1 hmem with hmem | hmem
  · rcases List.mem_append.1 hmem with hmem | hmem
    · exact hwrites call hmem
    · exact hfits _ call hmem
  · exact hcopies _ call hmem

theorem givesBack_setTitle (t : TerminalDisplay) (title : String) :
    ∀ call ∈ (t.setTitle title).2, call.givesBack = false := by
  rw [setTitle]
  split <;> simp [TerminalCall.givesBack]

end TerminalDisplay

theorem WindowDisplay.givesBack_refresh (w : WindowDisplay) (pixels : Array Bool) :
    ∀ call ∈ (w.refresh pixels).2.1, (DisplayCall.window call).givesBack = false := by
  rw [refresh]
  split <;> simp [DisplayCall.givesBack]

namespace Display

theorem close_refresh (d : Display) (pixels : Array Bool) (screen : Int × Int) (canResize : Bool) :
    (d.refresh pixels screen canResize).1.close = d.close := by
  rw [refresh, close, close]
  cases d.surface <;> rfl

theorem close_setTitle (d : Display) (title : String) : (d.setTitle title).1.close = d.close := by
  rw [setTitle, close, close]
  cases hsurface : d.surface <;> simp [hsurface]

theorem givesBack_refresh (d : Display) (pixels : Array Bool) (screen : Int × Int)
    (canResize : Bool) :
    ∀ call ∈ (d.refresh pixels screen canResize).2, call.givesBack = false := by
  rw [refresh]
  cases d.surface with
  | none => exact fun call hmem => nomatch hmem
  | window w => exact List.forall_mem_map.2 (w.givesBack_refresh pixels)
  | terminal t => exact List.forall_mem_map.2 (t.givesBack_refresh pixels screen canResize)

theorem givesBack_setTitle (d : Display) (title : String) :
    ∀ call ∈ (d.setTitle title).2, call.givesBack = false := by
  rw [setTitle]
  cases d.surface with
  | none => exact fun call hmem => nomatch hmem
  | window w => simp [DisplayCall.givesBack]
  | terminal t => exact List.forall_mem_map.2 (t.givesBack_setTitle title)

end Display

namespace Emulator

/-! ## Emulators with only inner events between them -/

/-- **One emulator follows another** if only inner events lie between them, and the parts are of the
same kinds. -/
structure Follows (e e' : Emulator) : Prop where
  kind_sound : e'.sound.kind = e.sound.kind
  close_display : e'.display.close = e.display.close
  events : ∃ events, e'.host.events = e.host.events ++ events ∧ ∀ event ∈ events, event.IsInner

namespace Follows

theorem refl (e : Emulator) : e.Follows e :=
  ⟨rfl, rfl, [], (List.append_nil _).symm, fun _ hmem => nomatch hmem⟩

theorem trans (e₁ e₂ e₃ : Emulator) (h : e₁.Follows e₂) (h' : e₂.Follows e₃) : e₁.Follows e₃ := by
  obtain ⟨events, hevents, hinner⟩ := h.events
  obtain ⟨events', hevents', hinner'⟩ := h'.events
  refine ⟨h'.kind_sound.trans h.kind_sound, h'.close_display.trans h.close_display,
    events ++ events', ?_, fun event hmem => ?_⟩
  · rw [hevents', hevents, List.append_assoc]
  · exact (List.mem_append.1 hmem).elim (hinner event) (hinner' event)

/-- Nothing is noted. -/
theorem of_host {e e' : Emulator} (hsound : e'.sound = e.sound) (hdisplay : e'.display = e.display)
    (hjournal : e'.host.journal = e.host.journal) : e.Follows e' :=
  ⟨congrArg _ hsound, congrArg _ hdisplay, [],
    (congrArg List.reverse hjournal).trans (List.append_nil _).symm, fun _ hmem => nomatch hmem⟩

end Follows

/-- **An act whose events are all inner.** -/
def IsUpkeep {α : Type} (act : Act α) : Prop := Keeps Follows act

section IsUpkeep

variable {α β : Type}

theorem IsUpkeep.bind {act : Act α} {next : α → Act β} (hact : IsUpkeep act)
    (hnext : ∀ a, IsUpkeep (next a)) : IsUpkeep (act >>= next) :=
  Keeps.bind Follows.trans hact hnext

theorem isUpkeep_pure (a : α) : IsUpkeep (pure a : Act α) := Keeps.pure Follows.refl a

theorem isUpkeep_throw (failure : Failure) : IsUpkeep (throw failure : Act α) :=
  Keeps.throw Follows.refl failure

theorem isUpkeep_attempt (result : Except Failure α) : IsUpkeep (attempt result : Act α) :=
  Keeps.attempt Follows.refl result

theorem isUpkeep_get : IsUpkeep (get : Act Emulator) := Follows.refl

end IsUpkeep

/-! ## Single acts -/

theorem isUpkeep_note {event : Event} (h : event.IsInner) : IsUpkeep (note event) := by
  intro e
  refine ⟨rfl, rfl, [event], Host.events_note .., fun event' hmem => ?_⟩
  rwa [List.mem_singleton.1 hmem]

theorem isUpkeep_modifyPace (f : Pace → Pace) : IsUpkeep (modifyPace f) :=
  fun _ => .of_host rfl rfl rfl

theorem isUpkeep_modifyMachine (f : Machine → Machine) : IsUpkeep (modifyMachine f) :=
  fun _ => .of_host rfl rfl rfl

theorem isUpkeep_readClock : IsUpkeep readClock := by
  intro e
  simp only [readClock, EStateM.run_bind, EStateM.run_get]
  rcases e.host.clock.read with _ | ⟨time, clock⟩
  · exact .refl e
  · refine ⟨rfl, rfl, [.clockRead time], Host.events_note .., fun event hmem => ?_⟩
    rw [List.mem_singleton.1 hmem]
    exact ⟨rfl, rfl⟩

theorem isUpkeep_sleep (seconds : Float) : IsUpkeep (sleep seconds) := by
  intro e
  refine ⟨rfl, rfl, [.slept seconds], Host.events_note .., fun event hmem => ?_⟩
  rw [List.mem_singleton.1 hmem]
  exact ⟨rfl, rfl⟩

theorem isUpkeep_runSteps (budget : Nat) : IsUpkeep (runSteps budget) := by
  intro e
  have hleft : left ((runSteps budget).run e) = e.afterBurst budget := by
    rw [run_runSteps]
    cases (e.machine.burst budget).failure <;> rfl
  rw [hleft]
  exact ⟨rfl, rfl, _, Host.events_noteAll .., List.forall_mem_map.2 fun _ _ => ⟨rfl, rfl⟩⟩

theorem isUpkeep_updateBuzzer : IsUpkeep updateBuzzer := by
  intro e
  rw [run_updateBuzzer, left_ok, buzzed]
  split
  · refine ⟨rfl, rfl, _, Host.events_note_noteAll .., List.forall_mem_cons.2 ⟨⟨rfl, rfl⟩, ?_⟩⟩
    exact List.forall_mem_map.2 fun call hmem =>
      ⟨rfl, Sound.givesBack_changeCalls _ _ _ call hmem⟩
  · exact .refl e

theorem isUpkeep_refreshDisplay : IsUpkeep refreshDisplay := by
  intro e
  have hlooked : (if e.display.hasScreen then e.host.takeScreen
      else (e.host.screen, e.host)).2.events = e.host.events := by
    rw [Host.takeScreen]
    split
    · split <;> rfl
    · rfl
  refine ⟨rfl, e.display.close_refresh .., _,
    (Host.events_note_noteAll ..).trans (congrArg (· ++ _) hlooked),
    List.forall_mem_cons.2 ⟨⟨rfl, rfl⟩, ?_⟩⟩
  exact List.forall_mem_map.2 fun call hmem => ⟨rfl, e.display.givesBack_refresh _ _ _ call hmem⟩

theorem isUpkeep_setTitle (title : String) : IsUpkeep (setTitle title) := by
  intro e
  refine ⟨rfl, e.display.close_setTitle title, _, Host.events_note_noteAll ..,
    List.forall_mem_cons.2 ⟨⟨rfl, rfl⟩, ?_⟩⟩
  exact List.forall_mem_map.2 fun call hmem => ⟨rfl, e.display.givesBack_setTitle title call hmem⟩

theorem isUpkeep_poll : IsUpkeep poll := by
  intro e
  obtain ⟨input, keypad, host, hleft, hjournal | ⟨quit, hjournal⟩⟩ := left_poll e
  · rw [hleft]
    exact .of_host rfl rfl hjournal
  · rw [hleft]
    refine ⟨rfl, rfl, [.polled quit], ?_, fun event hmem => ?_⟩
    · rw [Host.events, hjournal, List.reverse_cons]
      rfl
    · rw [List.mem_singleton.1 hmem]
      exact ⟨rfl, rfl⟩

/-! ## Turns -/

theorem isUpkeep_reportPerformance : IsUpkeep reportPerformance :=
  isUpkeep_get.bind fun e => (isUpkeep_setTitle e.pace.report).bind fun _ => isUpkeep_modifyPace _

theorem isUpkeep_advance (seconds : Float) : IsUpkeep (advance seconds) := by
  refine (isUpkeep_note ⟨rfl, rfl⟩).bind fun _ => ?_
  refine (isUpkeep_modifyPace _).bind fun _ => ?_
  refine isUpkeep_get.bind fun e => ?_
  refine (isUpkeep_attempt _).bind fun stepsDue => ?_
  refine (isUpkeep_attempt _).bind fun ticksDue => ?_
  refine (isUpkeep_runSteps _).bind fun ops => ?_
  refine (isUpkeep_modifyMachine _).bind fun _ => ?_
  refine (isUpkeep_modifyPace _).bind fun _ => ?_
  refine isUpkeep_updateBuzzer.bind fun _ => ?_
  exact (isUpkeep_modifyPace _).bind fun _ => isUpkeep_pure _

theorem isUpkeep_serveFrame (d : Deadlines) (now : Float) : IsUpkeep (serveFrame d now) := by
  rw [serveFrame]
  split
  · refine isUpkeep_poll.bind fun quit => ?_
    split
    · exact isUpkeep_pure _
    · exact isUpkeep_refreshDisplay.bind fun _ => isUpkeep_pure _
  · exact isUpkeep_pure _

theorem isUpkeep_serveReport (d : Deadlines) (now : Float) : IsUpkeep (serveReport d now) := by
  rw [serveReport]
  split
  · exact isUpkeep_reportPerformance.bind fun _ => isUpkeep_pure _
  · exact isUpkeep_pure _

theorem isUpkeep_work (d : Deadlines) (now : Float) : IsUpkeep (work d now) := by
  refine (isUpkeep_serveFrame d now).bind fun served => ?_
  cases served with
  | none => exact isUpkeep_pure _
  | some d =>
    refine (isUpkeep_serveReport d now).bind fun d => ?_
    exact (isUpkeep_advance _).bind fun _ => isUpkeep_pure _

theorem isUpkeep_rest (d : Deadlines) (now : Float) : IsUpkeep (rest d now) := by
  rw [rest]
  split
  · exact isUpkeep_sleep _
  · exact isUpkeep_pure _

/-- **A turn is upkeep.** -/
theorem isUpkeep_turn (d : Deadlines) : IsUpkeep (turn d) := by
  refine isUpkeep_readClock.bind fun now => (isUpkeep_work d now).bind fun worked => ?_
  cases worked with
  | none => exact isUpkeep_pure _
  | some d =>
    refine isUpkeep_readClock.bind fun later => ?_
    exact (isUpkeep_rest d later).bind fun _ => isUpkeep_pure _

/-- Turns are upkeep, however many there are. -/
theorem isUpkeep_turns (d : Deadlines) (n : Nat) : IsUpkeep (turns d n) := by
  induction n generalizing d with
  | zero => exact isUpkeep_throw _
  | succ n ih =>
    refine (isUpkeep_turn d).bind fun next => ?_
    cases next with
    | none => exact isUpkeep_pure _
    | some d => exact ih d

/-- **A run leaves an emulator that follows**, whatever ends it. -/
theorem isUpkeep_run : IsUpkeep run := by
  have hstart : IsUpkeep startRun := by
    refine isUpkeep_readClock.bind fun now => isUpkeep_get.bind fun e => ?_
    exact (isUpkeep_attempt _).bind fun speed => isUpkeep_pure _
  exact hstart.bind fun d => isUpkeep_get.bind fun e => isUpkeep_turns d _

end Emulator

end ChipEight
