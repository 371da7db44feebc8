import ChipEight.Proofs.Emulator.Upkeep
import ChipEight.Proofs.Machine.Build
import ChipEight.Session

/-!
# Proofs/Session/Shutdown — every part that is opened is given back

A session opens its display, its input system and its sound system, in this order.  Whatever ends it
then, those that are open are given back in the opposite order, each of them once, and the failure that
ended it is the one that leaves it.  A session that fails earlier calls no device at all.

* `Opens` — what has been noted between two hosts opens certain parts, and gives none back;
* `Ends` — every way a session with its display open can end, and what is open then;
* `run_of_settle` — nothing is given back before the end, and then everything is, in its order;
* `session_shuts_down` — **so on every path**, with the status that the command line reports.
-/

namespace ChipEight

/-! ## What is opened between two hosts -/

/-- **What has been noted since opens certain parts**, in this order, and gives none back. -/
def Host.Opens (h : Host) (opened : List Part) (h' : Host) : Prop :=
  ∃ events, h'.events = h.events ++ events ∧ events.filterMap Event.opened? = opened ∧
    ∀ event ∈ events, event.givesBack = false

namespace Host

theorem opens_refl (h : Host) : h.Opens [] h :=
  ⟨[], (List.append_nil _).symm, rfl, fun _ hmem => nomatch hmem⟩

theorem Opens.trans {h₁ h₂ h₃ : Host} {opened opened' : List Part} (h : h₁.Opens opened h₂)
    (h' : h₂.Opens opened' h₃) : h₁.Opens (opened ++ opened') h₃ := by
  obtain ⟨events, hevents, rfl, hopen⟩ := h
  obtain ⟨events', hevents', rfl, hopen'⟩ := h'
  refine ⟨events ++ events', ?_, List.filterMap_append, fun event hmem => ?_⟩
  · rw [hevents', hevents, List.append_assoc]
  · exact (List.mem_append.1 hmem).elim (hopen event) (hopen' event)

/-- Inner events open nothing. -/
theorem opens_nil {h h' : Host} {events : List Event} (hevents : h'.events = h.events ++ events)
    (hinner : ∀ event ∈ events, event.IsInner) : h.Opens [] h' :=
  ⟨events, hevents, List.filterMap_eq_nil_iff.2 fun event hmem => (hinner event hmem).1,
    fun event hmem => (hinner event hmem).2⟩

theorem opens_note (h : Host) (part : Part) : h.Opens [part] (h.note (.opened part)) := by
  refine ⟨[.opened part], events_note .., rfl, fun event hmem => ?_⟩
  rw [List.mem_singleton.1 hmem]
  rfl

end Host

namespace Session

open CommandLine

/-! ## What is noted when parts are given back -/

/-- The calls that give a kind of display back. -/
def displayEnd : DisplayKind → List DisplayCall
  | .null => []
  | .window => [.window .close]
  | .terminal =>
    [.terminal (.immediate false), .terminal (.echo true), .terminal (.showCursor true),
      .terminal .closeScreen]

/-- The calls that give a kind of sound system back. -/
def soundEnd : SoundKind → List SoundCall
  | .mixer => [.mixer .stop, .mixer .close]
  | .silent | .bell => []

/-- **What is noted when a part is given back**: that it is, and the calls for it. -/
def givingBack (devices : Devices) : Part → List Event
  | .sound => .closed .sound :: (soundEnd devices.sound).map .soundCall
  | .input => [.closed .input]
  | .display => .closed .display :: (displayEnd devices.display).map .displayCall

/-! ## Opening -/

/-- What is settled before the display is opened: the machine and the devices, the display, and the
calls that open it. -/
def settle (s : Settings) (h : Host) : Except Failure (Prepared × Display × List DisplayCall) := do
  let p ← prepare s h
  let (display, calls) ← Display.start p.devices.display p.pixelSize
  return (p, display, calls)

/-- The host once the display is open. -/
def displayed (h : Host) (calls : List DisplayCall) : Host :=
  ((h.note (.printed notice)).noteAll (calls.map .displayCall)).note (.opened .display)

/-- The notice makes no difference to what is settled. -/
theorem prepare_note (s : Settings) (h : Host) (event : Event) :
    prepare s (h.note event) = prepare s h := rfl

/-- **A session that cannot be settled fails for that reason**, with nothing but its notice. -/
theorem start_of_settle_error {s : Settings} {h : Host} {failure : Failure}
    (hsettle : settle s h = .error failure) :
    start s h = .error failure (h.note (.printed notice)) := by
  change (start s).run h = _
  simp only [start, note, EStateM.run_bind, EStateM.run_modify, EStateM.run_get, prepare_note]
  rw [settle] at hsettle
  rcases hprepare : prepare s h with failure' | p
  · rw [hprepare] at hsettle
    rw [run_attempt_error, ← Except.error.inj hsettle]
  · rw [hprepare] at hsettle
    rcases hdisplay : Display.start p.devices.display p.pixelSize with failure' | ⟨display, calls⟩
    · simp only [bind, Except.bind, hdisplay] at hsettle
      simp only [run_attempt_ok, openDisplay, EStateM.run_bind, hdisplay, run_attempt_error]
      rw [← Except.error.inj hsettle]
    · simp only [bind, Except.bind, hdisplay] at hsettle
      nomatch hsettle

theorem settle_eq_ok_iff {s : Settings} {h : Host} {p : Prepared} {display : Display}
    {calls : List DisplayCall} :
    settle s h = .ok (p, display, calls) ↔
      prepare s h = .ok p ∧ Display.start p.devices.display p.pixelSize = .ok (display, calls) := by
  rw [settle]
  constructor
  · intro hsettle
    rcases hprepare : prepare s h with failure | p'
    · rw [hprepare] at hsettle
      nomatch hsettle
    rcases hdisplay : Display.start p'.devices.display p'.pixelSize with failure | ⟨display', calls'⟩
    · simp only [hprepare, bind, Except.bind, hdisplay] at hsettle
      nomatch hsettle
    simp only [hprepare, bind, Except.bind, hdisplay] at hsettle
    obtain ⟨rfl, hrest⟩ := Prod.mk.inj (Except.ok.inj hsettle)
    obtain ⟨rfl, rfl⟩ := Prod.mk.inj hrest
    exact ⟨rfl, hdisplay⟩
  · rintro ⟨hprepare, hdisplay⟩
    simp only [hprepare, bind, Except.bind, hdisplay]
    rfl

/-- **A session that is settled opens its display**, and then the rest. -/
theorem start_of_settle {s : Settings} {h : Host} {p : Prepared} {display : Display}
    {calls : List DisplayCall} (hprepare : prepare s h = .ok p)
    (hdisplay : Display.start p.devices.display p.pixelSize = .ok (display, calls)) :
    start s h = openRest s p display (displayed h calls) := by
  change (start s).run h = _
  simp only [start, note, EStateM.run_bind, EStateM.run_modify, EStateM.run_get, prepare_note,
    hprepare, run_attempt_ok, openDisplay, hdisplay]
  rfl

/-- A display is opened without being given back, and is of its kind. -/
theorem display_start {kind : DisplayKind} {scale : Option Quantity} {display : Display}
    {calls : List DisplayCall} (h : Display.start kind scale = .ok (display, calls)) :
    display.close = displayEnd kind ∧ ∀ call ∈ calls, call.givesBack = false := by
  simp only [Display.start] at h
  split at h
  · cases h
  cases kind with
  | null =>
    obtain ⟨rfl, rfl⟩ := Prod.mk.inj (Except.ok.inj h)
    exact ⟨rfl, List.forall_mem_nil _⟩
  | window =>
    obtain ⟨rfl, rfl⟩ := Prod.mk.inj (Except.ok.inj h)
    exact ⟨rfl, by simp [WindowDisplay.start, DisplayCall.givesBack]⟩
  | terminal =>
    rcases hcells : Display.cells (scale.getD (Display.defaultScale .terminal)) with failure | cells
    · rw [hcells] at h
      cases h
    · rw [hcells] at h
      obtain ⟨rfl, rfl⟩ := Prod.mk.inj (Except.ok.inj h)
      exact ⟨rfl, by simp [TerminalDisplay.start, DisplayCall.givesBack, TerminalCall.givesBack]⟩

/-- The display is open, and nothing else. -/
theorem opens_displayed {h : Host} {calls : List DisplayCall}
    (hcalls : ∀ call ∈ calls, call.givesBack = false) :
    h.Opens [.display] (displayed h calls) := by
  have hnotice : h.Opens [] (h.note (.printed notice)) := by
    refine Host.opens_nil (Host.events_note ..) fun event hmem => ?_
    rw [List.mem_singleton.1 hmem]
    exact ⟨rfl, rfl⟩
  have hopening (h : Host) : h.Opens [] (h.noteAll (calls.map .displayCall)) :=
    Host.opens_nil (Host.events_noteAll ..)
      (List.forall_mem_map.2 fun call hmem => ⟨rfl, hcalls call hmem⟩)
  exact (hnotice.trans (hopening _)).trans (Host.opens_note ..)

/-- An input system is set up without being open yet. -/
theorem keeps_inputOf (s : Settings) (p : Prepared) :
    Keeps (fun h h' : Host => h.Opens [] h') (inputOf s p) := by
  have hattempt {α : Type} (result : Except Failure α) :
      Keeps (fun h h' : Host => h.Opens [] h') (attempt result) := .attempt Host.opens_refl result
  have hpure (input : Input) :
      Keeps (fun h h' : Host => h.Opens [] h') (pure input : HostAct Input) :=
    .pure Host.opens_refl input
  have htrans (h₁ h₂ h₃ : Host) (h : h₁.Opens [] h₂) (h' : h₂.Opens [] h₃) : h₁.Opens [] h₃ :=
    h.trans h'
  refine .bind htrans (hattempt _) fun keymap => ?_
  cases p.devices.display with
  | null => exact .bind htrans (hattempt _) fun _ => hpure _
  | window => exact .bind htrans (hattempt _) fun _ => hpure _
  | terminal =>
    refine .bind htrans (hattempt _) fun keymap h => ?_
    simp only [openTerminal, EStateM.run_bind, EStateM.run_get]
    cases ((TerminalInput.start keymap).readAll h.characters).failure with
    | none => exact h.opens_refl
    | some failure =>
      refine Host.opens_nil (Host.events_note ..) fun event hmem => ?_
      rw [List.mem_singleton.1 hmem]
      exact ⟨rfl, rfl⟩

/-- The input system is open unless it fails, and nothing else is opened. -/
theorem opens_openInput (s : Settings) (p : Prepared) (h : Host) :
    match (openInput s p).run h with
    | .ok _ h' => h.Opens [.input] h'
    | .error _ h' => h.Opens [] h' := by
  have hkeeps := keeps_inputOf s p h
  simp only [openInput, EStateM.run_bind]
  rcases hrun : (inputOf s p).run h with ⟨input, middle⟩ | ⟨failure, middle⟩
  · rw [hrun, left_ok] at hkeeps
    exact hkeeps.trans (middle.opens_note .input)
  · rwa [hrun, left_error] at hkeeps

/-- The sound system is open unless it fails, nothing else is opened, and it is of its kind. -/
theorem opens_openSound (p : Prepared) (h : Host) :
    match (openSound p).run h with
    | .ok sound h' => h.Opens [.sound] h' ∧ sound.kind = p.devices.sound
    | .error _ h' => h.Opens [] h' := by
  have hcalls (h : Host) (calls : List SoundCall)
      (hinner : ∀ call ∈ calls, call.givesBack = false) :
      h.Opens [] (h.noteAll (calls.map .soundCall)) :=
    Host.opens_nil (Host.events_noteAll ..)
      (List.forall_mem_map.2 fun call hmem => ⟨rfl, hinner call hmem⟩)
  have hstart (kind : SoundKind) : h.Opens [.sound]
      ((h.noteAll ((Sound.start kind).2.map .soundCall)).note (.opened .sound)) := by
    refine (hcalls h _ ?_).trans (Host.opens_note ..)
    cases kind <;> simp [Sound.start, Sound.mixerStart, SoundCall.givesBack]
  simp only [openSound, EStateM.run_bind, EStateM.run_get]
  cases p.devices.sound with
  | mixer =>
    cases h.mixerFailure with
    | none => exact ⟨hstart .mixer, rfl⟩
    | some failure =>
      exact hcalls h Sound.mixerStart (by simp [Sound.mixerStart, SoundCall.givesBack])
  | silent => exact ⟨hstart .silent, rfl⟩
  | bell => exact ⟨hstart .bell, rfl⟩

/-! ## Giving back -/

theorem closeDisplay_eq {devices : Devices} {display : Display}
    (hdisplay : display.close = displayEnd devices.display) (h : Host) :
    closeDisplay display h = h.noteAll (givingBack devices .display) := by
  rw [closeDisplay, hdisplay, givingBack, ← List.singleton_append, ← Host.noteAll_noteAll]
  rfl

theorem closeSound_eq {devices : Devices} {sound : Sound} (hsound : sound.kind = devices.sound)
    (h : Host) : closeSound sound h = h.noteAll (givingBack devices .sound) := by
  have hclose : sound.close = soundEnd devices.sound := by
    rw [Sound.close, hsound]
    rfl
  rw [closeSound, hclose, givingBack, ← List.singleton_append, ← Host.noteAll_noteAll]
  rfl

theorem closeDisplay_closeInput_eq {devices : Devices} {display : Display}
    (hdisplay : display.close = displayEnd devices.display) (h : Host) :
    closeDisplay display (closeInput h) =
      h.noteAll (givingBack devices .input ++ givingBack devices .display) := by
  rw [closeDisplay_eq hdisplay, ← Host.noteAll_noteAll]
  rfl

/-- Everything is given back, the sound system first. -/
theorem closeAll_eq {devices : Devices} {sound : Sound} {display : Display}
    (hsound : sound.kind = devices.sound) (hdisplay : display.close = displayEnd devices.display)
    (h : Host) :
    closeAll sound display h =
      h.noteAll ([.sound, .input, .display].flatMap (givingBack devices)) := by
  rw [closeAll, closeDisplay_closeInput_eq hdisplay, closeSound_eq hsound, Host.noteAll_noteAll]
  simp

/-- A run opens nothing and gives nothing back. -/
theorem opens_of_follows {e e' : Emulator} (h : e.Follows e') : e.host.Opens [] e'.host := by
  obtain ⟨events, hevents, hinner⟩ := h.events
  exact Host.opens_nil hevents hinner

/-- After a run everything can be given back as it was opened. -/
theorem closeAll_of_follows {devices : Devices} {e e' : Emulator} (h : e.Follows e')
    (hsound : e.sound.kind = devices.sound)
    (hdisplay : e.display.close = displayEnd devices.display) :
    closeAll e'.sound e'.display e'.host =
      e'.host.noteAll ([.sound, .input, .display].flatMap (givingBack devices)) :=
  closeAll_eq (h.kind_sound.trans hsound) (h.close_display.trans hdisplay) e'.host

/-! ## Every way to end -/

/-- **How a session with its display open ends**: what is open then, the failure that ends it unless the
user quits, and the host before anything is given back. -/
inductive Ends (s : Settings) (p : Prepared) (display : Display) (h : Host) :
    List Part → Option Failure → Host → Prop where
  /-- The input system cannot be opened. -/
  | input {failure : Failure} {ended : Host} (hinput : openInput s p h = .error failure ended) :
    Ends s p display h [.display] (some failure) ended
  /-- The sound system cannot be opened. -/
  | sound {input : Input} {failure : Failure} {before ended : Host}
    (hinput : openInput s p h = .ok input before)
    (hsound : openSound p before = .error failure ended) :
    Ends s p display h [.display, .input] (some failure) ended
  /-- There is no pace at this speed. -/
  | pace {input : Input} {sound : Sound} {failure : Failure} {before ended : Host}
    (hinput : openInput s p h = .ok input before) (hsound : openSound p before = .ok sound ended)
    (hpace : Pace.start p.clockSpeed = .error failure) :
    Ends s p display h [.display, .input, .sound] (some failure) ended
  /-- The user quits the run. -/
  | quit {input : Input} {sound : Sound} {pace : Pace} {before host : Host} {e : Emulator}
    (hinput : openInput s p h = .ok input before) (hsound : openSound p before = .ok sound host)
    (hpace : Pace.start p.clockSpeed = .ok pace)
    (hrun : Emulator.run { machine := p.machine, pace, input, display, sound, host } = .ok () e) :
    Ends s p display h [.display, .input, .sound] none e.host
  /-- The run fails. -/
  | failure {input : Input} {sound : Sound} {pace : Pace} {before host : Host} {e : Emulator}
    {failure : Failure} (hinput : openInput s p h = .ok input before)
    (hsound : openSound p before = .ok sound host) (hpace : Pace.start p.clockSpeed = .ok pace)
    (hrun : Emulator.run { machine := p.machine, pace, input, display, sound, host } =
      .error failure e) :
    Ends s p display h [.display, .input, .sound] (some failure) e.host

/-- The result of a session that ends with a failure, or with none. -/
def result : Option Failure → Host → EStateM.Result Failure Host Unit
  | none, h => .ok () h
  | some failure, h => .error failure h

/-- **Whatever ends a session, what is open then is given back**, in the opposite order, and the failure
stays what it is. -/
theorem run_of_settle {s : Settings} {h : Host} {p : Prepared} {display : Display}
    {calls : List DisplayCall} (hsettle : settle s h = .ok (p, display, calls)) :
    ∃ opened failure ended, Ends s p display (displayed h calls) opened failure ended ∧
      h.Opens opened ended ∧
      run s h = result failure (ended.noteAll (opened.reverse.flatMap (givingBack p.devices))) := by
  obtain ⟨hprepare, hdisplay⟩ := settle_eq_ok_iff.1 hsettle
  obtain ⟨hclose, hcalls⟩ := display_start hdisplay
  have hdisplayed := opens_displayed (h := h) hcalls
  have hopen_input := opens_openInput s p (displayed h calls)
  rw [run, start_of_settle hprepare hdisplay, openRest]
  -- part by part: either it fails, and what is open by then is given back, or it is open too
  rcases hinput : openInput s p (displayed h calls) with ⟨input, before⟩ | ⟨failure, ended⟩
  case error =>
    rw [EStateM.run, hinput] at hopen_input
    refine ⟨_, _, _, .input hinput, hdisplayed.trans hopen_input, ?_⟩
    simp [closeDisplay_eq hclose, result]
  rw [EStateM.run, hinput] at hopen_input
  have hopen_sound := opens_openSound p before
  rcases hsound : openSound p before with ⟨sound, host⟩ | ⟨failure, ended⟩
  case error =>
    rw [EStateM.run, hsound] at hopen_sound
    refine ⟨_, _, _, .sound hinput hsound, (hdisplayed.trans hopen_input).trans hopen_sound, ?_⟩
    simp [hsound, closeDisplay_closeInput_eq hclose, result]
  rw [EStateM.run, hsound] at hopen_sound
  obtain ⟨hopen_sound, hkind⟩ := hopen_sound
  have hopened := (hdisplayed.trans hopen_input).trans hopen_sound
  rcases hpace : Pace.start p.clockSpeed with failure | pace
  case error =>
    refine ⟨_, _, _, .pace hinput hsound hpace, hopened, ?_⟩
    simp only [hsound, closeAll_eq hkind hclose]
    rfl
  -- the run leaves parts of the same kinds, so they are given back as they were opened
  have hfollows := Emulator.isUpkeep_run { machine := p.machine, pace, input, display, sound, host }
  rcases hrun : Emulator.run { machine := p.machine, pace, input, display, sound, host } with
    ⟨_, e⟩ | ⟨failure, e⟩
  case ok =>
    rw [EStateM.run, hrun, left_ok] at hfollows
    refine ⟨_, _, _, .quit hinput hsound hpace hrun, hopened.trans (opens_of_follows hfollows), ?_⟩
    simp only [hsound, hrun, afterRun, closeAll_of_follows hfollows hkind hclose]
    rfl
  case error =>
    rw [EStateM.run, hrun, left_error] at hfollows
    refine ⟨_, _, _, .failure hinput hsound hpace hrun,
      hopened.trans (opens_of_follows hfollows), ?_⟩
    simp only [hsound, hrun, afterRun, closeAll_of_follows hfollows hkind hclose]
    rfl

/-! ## The status -/

/-- **The failures that are reported**: those of the running program, of the keymap, of the start and
of the pixel size. -/
inductive IsReported : Failure → Prop where
  | machine (fault : MachineFault) : IsReported (.machine fault)
  | keymap (fault : KeymapFault) : IsReported (.keymap fault)
  | startup (fault : StartupFault) : IsReported (.startup fault)
  | pixelSize : IsReported .pixelSize

theorem haltsEmulation_iff {failure : Failure} :
    failure.haltsEmulation = true ↔ IsReported failure := by
  constructor
  · intro h
    cases failure with
    | machine fault => exact .machine fault
    | keymap fault => exact .keymap fault
    | startup fault => exact .startup fault
    | pixelSize => exact .pixelSize
    | _ => nomatch h
  · rintro (_ | _ | _ | _) <;> rfl

theorem command_of_parse {args : List String} {o : Options} (hparse : parse args = .ok o)
    (h : Host) : command args h = report (run (settingsOf o) h) := by
  change (command args).run h = _
  rw [command, options, hparse]
  rfl

/-- **The three reports**: of no failure, of one that is reported, and of any other. -/
theorem report_cases (ended : EStateM.Result Failure Host Unit) :
    (∃ h, ended = .ok () h ∧ report ended = .ok 0 h) ∨
      (∃ failure h h', ended = .error failure h ∧ IsReported failure ∧ report ended = .ok 1 h') ∨
      ∃ failure h, ended = .error failure h ∧ ¬IsReported failure ∧
        report ended = .error failure h := by
  rcases ended with ⟨_, h⟩ | ⟨failure, h⟩
  · exact .inl ⟨h, rfl, rfl⟩
  · by_cases hhalts : failure.haltsEmulation = true
    · exact .inr (.inl ⟨failure, h, _, rfl, haltsEmulation_iff.1 hhalts, if_pos hhalts⟩)
    · exact .inr (.inr ⟨failure, h, rfl, mt haltsEmulation_iff.2 hhalts, if_neg hhalts⟩)

/-! ## Every path -/

/-- **A session shuts down**: if it cannot be settled, no device is called; and otherwise, whatever ends
it, every part that is open then is given back once, the last one opened first, and nothing before
that. -/
structure ShutsDown (s : Settings) (h : Host) : Prop where
  unopened : ∀ failure, settle s h = .error failure →
    run s h = .error failure (h.note (.printed notice))
  opened : ∀ p display calls, settle s h = .ok (p, display, calls) →
    ∃ opened failure ended, Ends s p display (displayed h calls) opened failure ended ∧
      h.Opens opened ended ∧
      run s h = result failure (ended.noteAll (opened.reverse.flatMap (givingBack p.devices)))

/-- **A status tells how a session ended**: 0 if it returned, 1 if it failed in a way that is reported;
every other failure passes. -/
structure TellsStatus (args : List String) (h : Host) : Prop where
  zero_iff : ∀ o, parse args = .ok o →
    ((∃ h', command args h = .ok 0 h') ↔ ∃ h', run (settingsOf o) h = .ok () h')
  one_iff : ∀ o, parse args = .ok o →
    ((∃ h', command args h = .ok 1 h') ↔
      ∃ failure h', run (settingsOf o) h = .error failure h' ∧ IsReported failure)
  error_iff : ∀ o, parse args = .ok o → ∀ failure h',
    (command args h = .error failure h' ↔
      run (settingsOf o) h = .error failure h' ∧ ¬IsReported failure)

theorem tellsStatus (args : List String) (h : Host) : TellsStatus args h := by
  refine ⟨fun o hparse => ?_, fun o hparse => ?_, fun o hparse failure h' => ?_⟩
  -- each of the three equivalences, for each of the three reports
  all_goals
    rw [command_of_parse hparse]
    rcases report_cases (run (settingsOf o) h) with ⟨ended, hrun, hreport⟩ |
      ⟨failure', ended, told, hrun, hreported, hreport⟩ | ⟨failure', ended, hrun, hpasses, hreport⟩
  all_goals rw [hrun] at hreport ⊢
  all_goals rw [hreport]
  · simp
  · simp
  · simp
  · simp
  · simp [hreported]
  · simp [hpasses]
  · simp
  · refine ⟨nofun, fun ⟨hended, hnot⟩ => ?_⟩
    obtain ⟨rfl, -⟩ := EStateM.Result.error.inj hended
    exact (hnot hreported).elim
  · constructor
    · intro hended
      obtain ⟨rfl, rfl⟩ := EStateM.Result.error.inj hended
      exact ⟨rfl, hpasses⟩
    · rintro ⟨hended, -⟩
      obtain ⟨rfl, rfl⟩ := EStateM.Result.error.inj hended
      rfl

/-- **Shutdown on every path.**  Any session shuts down, whatever its settings and its host, and any
command line tells by its status how the session ended. -/
theorem session_shuts_down (s : Settings) (args : List String) (h : Host) :
    ShutsDown s h ∧ TellsStatus args h := by
  refine ⟨⟨fun failure hsettle => ?_, fun p display calls hsettle => run_of_settle hsettle⟩,
    tellsStatus args h⟩
  rw [run, start_of_settle_error hsettle]

/-- A session in a window without sound. -/
def windowSettings : Settings where
  clockSpeed := some .absent
  pixelSize := some .absent
  renderer := some (.one "pygame")
  mute := some (.one true)
  filename := some (some "jump.ch8")
  debug := some false
  keymap := some .absent

/-- A host with a program in every file, whose clock does not answer. -/
def stoppedHost : Host := { Host.quiet with files := fun _ => .ok [0x12, 0x00] }

/-- A session that is interrupted as soon as it runs gives back all its parts. -/
theorem session_shuts_down_interrupted :
    ∃ ended, stoppedHost.Opens [.display, .input, .sound] ended ∧
      run windowSettings stoppedHost = .error .interrupted (ended.noteAll
        [.closed .sound, .closed .input, .closed .display, .displayCall (.window .close)]) := by
  let p : Prepared :=
    ⟨Machine.booted [0x12, 0x00] [] false, windowDevices (.one true), none, none⟩
  have hprepare : prepare windowSettings stoppedHost = .ok p := by
    have hprogram : readProgram stoppedHost (some "jump.ch8") = .ok [0x12, 0x00] := rfl
    have hbuild : Machine.build ([0x12, 0x00].map fun b : UInt8 => (b.toNat : Int)) [] false =
        .ok (Machine.booted [0x12, 0x00] [] false) := Machine.build_bytes (by decide) [] false
    have hrandom : stoppedHost.random = [] := rfl
    simp only [prepare, windowSettings, need, positive, chooseDevices, bind, Except.bind, hprogram,
      hrandom, hbuild]
    rfl
  have hsettle := settle_eq_ok_iff.2 ⟨hprepare, rfl⟩
  obtain ⟨opened, failure, ended, hends, hopens, hrun⟩ :=
    (session_shuts_down windowSettings [] stoppedHost).1.opened p _ _ hsettle
  refine ⟨ended, ?_⟩
  -- everything opens, and the first reading of the clock interrupts the run
  cases hends with
  | input hinput => nomatch hinput
  | sound hinput hsound => nomatch hsound
  | pace hinput hsound hpace => nomatch hpace
  | quit hinput hsound hpace hended =>
    cases hinput
    cases hsound
    cases hpace
    nomatch hended
  | failure hinput hsound hpace hended =>
    cases hinput
    cases hsound
    cases hpace
    cases hended
    exact ⟨hopens, hrun⟩

end Session

end ChipEight
