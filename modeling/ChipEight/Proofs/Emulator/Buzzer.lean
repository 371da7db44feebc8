import Mathlib.Data.Bool.Basic
import ChipEight.Proofs.Emulator.History

/-!
# Proofs/Emulator/Buzzer — the buzzer follows the sound timer

An emulator and its sound system both keep whether the buzzer is on.  The two never differ, and after
every call that comes to the buzzer they are as the sound timer has it.  So the sound system is told of
the changes alone, however often the timer is set and ticks within a slice, and a call that fails tells
it nothing.

* `switches` — the values at which a sequence changes;
* `Emulator.Rings` — what the sound system is told while the sound timer goes through some states;
* `Rings.buzzed` — the one place where it is told anything;
* `Performs.rings`, `History.rings` — what one call tells it, and what a history does;
* `buzzer_follows_timer` — **the buzzer over every history**: its changes alternate, beginning with
  the one to on, a mixer plays while the timer runs, and a bell rings when it begins to.
-/

namespace ChipEight

/-! ## The changes of a sequence -/

/-- **The values at which a sequence changes**, from the value before it on. -/
def switches (was : Bool) : List Bool → List Bool
  | [] => []
  | now :: rest => if now = was then switches was rest else now :: switches now rest

section Switches

variable (was : Bool) (states : List Bool)

theorem switches_same (rest : List Bool) : switches was (was :: rest) = switches was rest :=
  if_pos rfl

theorem switches_not (rest : List Bool) :
    switches was ((!was) :: rest) = (!was) :: switches (!was) rest :=
  if_neg (Bool.not_ne_self was)

/-- A sequence changes on from the last value of the one before it. -/
theorem switches_append (more : List Bool) :
    switches was (states ++ more) = switches was states ++ switches (states.getLastD was) more := by
  induction states generalizing was with
  | nil => rfl
  | cons now rest ih =>
    rw [List.cons_append, List.getLastD_cons]
    obtain rfl | rfl := Bool.eq_or_eq_not now was
    · rw [switches_same, switches_same, ih]
    · rw [switches_not, switches_not, ih, List.cons_append]

/-- **The changes alternate**, beginning with the one away from the value before. -/
theorem getElem_switches (i : Nat) (hi : i < (switches was states).length) :
    (switches was states)[i] = (was ^^ decide (i % 2 = 0)) := by
  induction states generalizing was i with
  | nil => nomatch hi
  | cons now rest ih =>
    obtain rfl | rfl := Bool.eq_or_eq_not now was
    · simp only [switches_same] at hi ⊢
      exact ih now i hi
    · simp only [switches_not] at hi ⊢
      cases i with
      | zero => simp
      | succ i =>
        have hparity : decide ((i + 1) % 2 = 0) = !decide (i % 2 = 0) := by
          rw [← decide_not, decide_eq_decide]
          omega
        rw [List.getElem_cons_succ, ih, hparity, Bool.not_xor, Bool.xor_not]

end Switches

/-! ## What a sound system makes of them -/

/-- What a sound system calls when it is told of some changes. -/
def Sound.callsFor (kind : SoundKind) (told : List Bool) : List SoundCall :=
  told.flatMap fun on => changeCalls kind (!on) on

/-- Whether a sound is playing after a call. -/
def SoundCall.playsAfter (playing : Bool) : SoundCall → Bool
  | .mixer .play => true
  | .mixer .stop => false
  | _ => playing

/-- Whether a sound is playing after some calls, if none was before them. -/
def SoundCall.arePlaying (calls : List SoundCall) : Bool := calls.foldl playsAfter false

theorem Sound.callsFor_append (kind : SoundKind) (told more : List Bool) :
    callsFor kind (told ++ more) = callsFor kind told ++ callsFor kind more :=
  List.flatMap_append

/-- A mixer plays when it is switched on, and stops when it is switched off. -/
theorem Sound.callsFor_mixer (told : List Bool) :
    callsFor .mixer told = told.map fun on => .mixer (if on then .play else .stop) := by
  rw [List.map_eq_flatMap]
  exact congrArg (told.flatMap ·) (funext fun on => by cases on <;> rfl)

/-- **A sound is playing exactly if the last state is to sound.** -/
theorem foldl_playsAfter_callsFor (was : Bool) (states : List Bool) :
    (Sound.callsFor .mixer (switches was states)).foldl SoundCall.playsAfter was =
      states.getLastD was := by
  induction states generalizing was with
  | nil => rfl
  | cons now rest ih =>
    rw [List.getLastD_cons]
    obtain rfl | rfl := Bool.eq_or_eq_not now was
    · rw [switches_same, ih]
    · rw [switches_not, ← ih]
      cases was <;> rfl

/-- **A bell rings once a change from silent to sounding.** -/
theorem Sound.callsFor_bell (was : Bool) (states : List Bool) :
    callsFor .bell (switches was states) =
      List.replicate (((was :: states).zip states).count (false, true)) .bell := by
  induction states generalizing was with
  | nil => rfl
  | cons now rest ih =>
    rw [List.zip_cons_cons, List.count_cons]
    obtain rfl | rfl := Bool.eq_or_eq_not now was
    · rw [switches_same, ih]
      cases now <;> rfl
    · rw [switches_not, callsFor, List.flatMap_cons, ← callsFor, ih]
      cases was
      · exact List.replicate_succ.symm
      · rfl

/-! ## What a sound system is told -/

/-- What the sound system is told of the buzzer. -/
def Event.buzzer? : Event → Option Bool
  | .buzzer on => some on
  | _ => none

/-- What the sound system calls. -/
def Event.soundCall? : Event → Option SoundCall
  | .soundCall call => some call
  | _ => none

/-- What the sound system has been told, the earliest first. -/
def Host.told (h : Host) : List Bool := h.events.filterMap Event.buzzer?

/-- What the sound system has called, the earliest first. -/
def Host.soundCalls (h : Host) : List SoundCall := h.events.filterMap Event.soundCall?

/-- A change of the buzzer, with what the sound system calls for it. -/
theorem Host.told_note_noteAll (h : Host) (on : Bool) (calls : List SoundCall) :
    ((h.note (.buzzer on)).noteAll (calls.map .soundCall)).told = h.told ++ [on] := by
  have hnone : calls.filterMap (Event.buzzer? ∘ .soundCall) = [] :=
    List.filterMap_eq_nil_iff.2 fun _ _ => rfl
  rw [told, events_note_noteAll, List.filterMap_append, List.filterMap_cons, List.filterMap_map,
    hnone]
  rfl

theorem Host.soundCalls_note_noteAll (h : Host) (on : Bool) (calls : List SoundCall) :
    ((h.note (.buzzer on)).noteAll (calls.map .soundCall)).soundCalls = h.soundCalls ++ calls := by
  rw [soundCalls, events_note_noteAll, List.filterMap_append, List.filterMap_cons,
    List.filterMap_map]
  exact congrArg (_ ++ ·) List.filterMap_some

/-- What the sound system is told and calls are services. -/
theorem Host.told_eq (h : Host) : h.told = h.services.filterMap Event.buzzer? :=
  (filterMap_services (fun event hevent => by cases event <;> first | rfl | nomatch hevent) h).symm

theorem Host.soundCalls_eq (h : Host) : h.soundCalls = h.services.filterMap Event.soundCall? :=
  (filterMap_services (fun event hevent => by cases event <;> first | rfl | nomatch hevent) h).symm

namespace Emulator

/-- Whether the sound timer is running. -/
def isSounding (e : Emulator) : Bool := decide (0 < e.machine.timers.sound)

theorem isSounding_eq (e : Emulator) : e.isSounding = e.machine.timers.isSounding := by
  rw [isSounding, Timers.isSounding, bne, Bool.eq_iff_iff]
  simp [UInt8.pos_iff_ne_zero]

/-- **What the sound system is told** between two emulators, while the sound timer goes through some
states; it ends on, if the emulator has the buzzer on. -/
structure Rings (e : Emulator) (states : List Bool) (next : Emulator) : Prop where
  told_eq : next.host.told = e.host.told ++ switches e.pace.buzzer states
  soundCalls_eq : next.host.soundCalls =
    e.host.soundCalls ++ Sound.callsFor e.sound.kind (switches e.pace.buzzer states)
  buzzer_eq : next.pace.buzzer = states.getLastD e.pace.buzzer
  sound_eq : next.sound = ⟨e.sound.kind, next.pace.buzzer⟩

/-- The emulator and its sound system agree on whether the buzzer is on. -/
def Agrees (e : Emulator) : Prop := e.sound.on = e.pace.buzzer

namespace Rings

variable {e middle next : Emulator} {states more : List Bool}

theorem agrees (h : e.Rings states next) : next.Agrees := congrArg Sound.on h.sound_eq

/-- Nothing is told by services that are none of the sound system. -/
theorem of_services {passed : List Event} (hagrees : e.Agrees)
    (hbuzzer : next.pace.buzzer = e.pace.buzzer) (hsound : next.sound = e.sound)
    (hservices : next.host.services = e.host.services ++ passed)
    (htold : passed.filterMap Event.buzzer? = []) (hcalls : passed.filterMap Event.soundCall? = []) :
    e.Rings [] next where
  told_eq := by
    rw [Host.told_eq, hservices, List.filterMap_append, htold, Host.told_eq, switches]
  soundCalls_eq := by
    rw [Host.soundCalls_eq, hservices, List.filterMap_append, hcalls, Host.soundCalls_eq, switches]
    rfl
  buzzer_eq := hbuzzer
  sound_eq := by rw [hsound, hbuzzer, ← hagrees]

/-- Nothing is told while time elapses. -/
theorem of_elapses (hagrees : e.Agrees) (h : Elapses e next) : e.Rings [] next :=
  of_services hagrees (by rw [h.pace_eq]) h.sound_eq
    (h.services_eq.trans (List.append_nil _).symm) rfl rfl

theorem trans (h : e.Rings states middle) (h' : middle.Rings more next) :
    e.Rings (states ++ more) next where
  told_eq := by
    rw [h'.told_eq, h.told_eq, h.buzzer_eq, switches_append, List.append_assoc]
  soundCalls_eq := by
    rw [h'.soundCalls_eq, h.soundCalls_eq, h.sound_eq, h.buzzer_eq, switches_append,
      Sound.callsFor_append, List.append_assoc]
  buzzer_eq := by
    rw [h'.buzzer_eq, h.buzzer_eq, List.getLastD_eq_getLast?, List.getLastD_eq_getLast?,
      List.getLastD_eq_getLast?, List.getLast?_append]
    cases more.getLast? <;> rfl
  sound_eq := by rw [h'.sound_eq, h.sound_eq]

/-- **The one place where the sound system is told anything**: it is told of a change. -/
theorem buzzed (hagrees : e.Agrees) : e.Rings [e.isSounding] e.buzzed := by
  rw [isSounding_eq]
  obtain hsame | hchange := Bool.eq_or_eq_not e.machine.timers.isSounding e.pace.buzzer
  · have hbuzzed : e.buzzed = e := by
      rw [Emulator.buzzed]
      exact if_neg (not_not.2 hsame)
    have hquiet : e.Rings [] e := of_elapses hagrees (.refl e)
    rw [hbuzzed, hsame]
    exact { hquiet with
      told_eq := by rw [switches_same, ← hquiet.told_eq]
      soundCalls_eq := by rw [switches_same, ← hquiet.soundCalls_eq] }
  · have hbuzzed : e.buzzed = { e with
        sound := (e.sound.enable (!e.pace.buzzer)).1
        pace := { e.pace with buzzer := !e.pace.buzzer }
        host := (e.host.note (.buzzer (!e.pace.buzzer))).noteAll
          ((e.sound.enable (!e.pace.buzzer)).2.map .soundCall) } := by
      rw [Emulator.buzzed, hchange]
      exact if_pos (Bool.not_ne_self _)
    rw [hbuzzed, hchange]
    refine ⟨?_, ?_, rfl, rfl⟩
    · rw [switches_not]
      exact Host.told_note_noteAll ..
    · rw [switches_not, Host.soundCalls_note_noteAll, Sound.enable, hagrees]
      exact congrArg (_ ++ ·) (by simp [Sound.callsFor, switches])

end Rings

/-! ## What a call tells -/

/-- The emulator after a deed that comes to the buzzer. -/
def Deed.after? : Deed → Option Emulator
  | .slice _ _ after | .buzzer after => some after
  | .refresh | .report => none

/-- Whether the sound timer is running at the end of each deed that comes to the buzzer. -/
def soundings (deeds : List Deed) : List Bool := (deeds.filterMap Deed.after?).map isSounding

/-- **What one call tells the sound system**: whether the sound timer runs at its end, if it
succeeds and comes to the buzzer. -/
theorem Performs.rings {e next : Emulator} {deeds : List Deed} (h : Performs e deeds next)
    (hagrees : e.Agrees) : e.Rings (soundings deeds) next := by
  cases h with
  | slice hrun =>
    obtain ⟨ready, helapses, rfl⟩ := exists_elapses_of_run_advanceBy hrun
    have hready : e.Rings [] ready := .of_elapses hagrees helapses
    have hbuzzed := hready.trans (.buzzed hready.agrees)
    have hsounding (ops : Nat) : (ready.buzzed.counted ops).isSounding = ready.isSounding := by
      rw [isSounding, isSounding, counted, machine_buzzed]
    change e.Rings [(ready.buzzed.counted _).isSounding] _
    rw [hsounding]
    exact hbuzzed.trans (.of_services hbuzzed.agrees rfl rfl (List.append_nil _).symm rfl rfl)
  | fails hrun => exact .of_elapses hagrees (elapses_of_run_advanceBy hrun)
  | buzzer hrun =>
    obtain rfl := (EStateM.Result.ok.inj ((run_updateBuzzer e).symm.trans hrun)).2
    change e.Rings [e.buzzed.isSounding] _
    rw [isSounding, machine_buzzed]
    exact .buzzed hagrees
  | refresh hrun =>
    obtain ⟨hpace, hsound, hservices⟩ := eq_of_run_refreshDisplay hrun
    exact .of_services hagrees (by rw [hpace]) hsound hservices rfl rfl
  | report hrun =>
    obtain ⟨hpace, hsound, hservices⟩ := eq_of_run_reportPerformance hrun
    exact .of_services hagrees (by rw [hpace]) hsound hservices rfl rfl
  | aside h => exact .of_elapses hagrees h.elapses

/-! ## What a history tells -/

theorem soundings_append (deeds more : List Deed) :
    soundings (deeds ++ more) = soundings deeds ++ soundings more := by
  rw [soundings, List.filterMap_append, List.map_append, soundings, soundings]

/-- **What a history tells the sound system**, from an emulator that agrees with it on. -/
theorem History.rings {e last : Emulator} {deeds : List Deed} (h : History e deeds last)
    (hagrees : e.Agrees) : e.Rings (soundings deeds) last := by
  refine h.related (R := fun e deeds last => e.Agrees → e.Rings (soundings deeds) last)
    (fun e hagrees => .of_elapses hagrees (.refl e)) (fun hfirst hrest hagrees => ?_)
    (fun hperform => hperform.rings) hagrees
  rw [soundings_append]
  exact (hfirst hagrees).trans (hrest (hfirst hagrees).agrees)

/-- **The buzzer is in step with the sound timer**: both copies of it are as the timer has it. -/
structure InStep (e : Emulator) : Prop where
  buzzer_eq : e.pace.buzzer = e.isSounding
  on_eq : e.sound.on = e.isSounding

/-- A call with a deed that comes to the buzzer ends where this deed does. -/
theorem Performs.after_eq {e next : Emulator} {deeds : List Deed} (h : Performs e deeds next) :
    deeds.filterMap Deed.after? = [] ∨ deeds.filterMap Deed.after? = [next] := by
  cases h with
  | slice | buzzer => exact .inr rfl
  | fails | refresh | report | aside => exact .inl rfl

/-- **After every deed that comes to the buzzer, it is in step with the sound timer.** -/
theorem History.inStep {e last : Emulator} {deeds : List Deed} (h : History e deeds last)
    (hagrees : e.Agrees) : ∀ after ∈ deeds.filterMap Deed.after?, after.InStep := by
  induction h with
  | nil => exact fun after hmem => absurd hmem List.not_mem_nil
  | @snoc middle next before more hbefore hlast ih =>
    rw [List.filterMap_append]
    refine List.forall_mem_append.2 ⟨ih, fun after hmem => ?_⟩
    obtain hafter | hafter := hlast.after_eq
    · rw [hafter] at hmem
      exact absurd hmem List.not_mem_nil
    rw [hafter] at hmem
    obtain rfl := List.mem_singleton.1 hmem
    have hrings := (hbefore.snoc hlast).rings hagrees
    have hbuzzer : after.pace.buzzer = after.isSounding := by
      rw [hrings.buzzer_eq, soundings_append, soundings, soundings, hafter, List.map_singleton,
        List.getLastD_concat]
    exact ⟨hbuzzer, by rw [hrings.sound_eq, hbuzzer]⟩

/-- **The buzzer follows the sound timer over every history**: slices of time that succeed or fail,
frames, reports and calls of the buzzer, in any order, with any program, and with the timer set to
anything in between.

The sound system is told of the changes of what the timer is at the ends of the successful slices and
calls of the buzzer, alternately on and off, and first on.  After each of them, both copies of the
buzzer are as the timer has it.  So a mixer is called to play and to stop alternately, first to play,
and is playing exactly if the timer was running at the end of the last one; and a bell rings once a
change from silent to sounding. -/
theorem buzzer_follows_timer {e last : Emulator} {speed : Option Quantity} {kind : SoundKind}
    {deeds : List Deed} (hpace : Pace.start speed = .ok e.pace)
    (hsound : e.sound = (Sound.start kind).1) (h : History e deeds last) :
    let states := soundings deeds
    ∃ told calls, last.host.told = e.host.told ++ told ∧
      last.host.soundCalls = e.host.soundCalls ++ calls ∧
      told = switches false states ∧ (∀ i (hi : i < told.length), told[i] = decide (i % 2 = 0)) ∧
      (∀ after ∈ deeds.filterMap Deed.after?, after.InStep) ∧
      (kind = .mixer →
        (∀ i (hi : i < calls.length), calls[i] = .mixer (if i % 2 = 0 then .play else .stop)) ∧
          (SoundCall.arePlaying calls = true ↔ states.getLast? = some true)) ∧
      (kind = .bell →
        calls = List.replicate (((false :: states).zip states).count (false, true)) .bell) := by
  obtain ⟨hoff, -⟩ := Pace.counts_of_start hpace
  have hagrees : e.Agrees := by
    rw [Agrees, hsound, hoff]
    rfl
  have hrings := h.rings hagrees
  have hkind : e.sound.kind = kind := congrArg Sound.kind hsound
  have htold := hrings.told_eq
  have hcalls := hrings.soundCalls_eq
  rw [hoff] at htold hcalls
  rw [hkind] at hcalls
  have halternate (i : Nat) (hi : i < (switches false (soundings deeds)).length) :
      (switches false (soundings deeds))[i] = decide (i % 2 = 0) := by
    rw [getElem_switches, Bool.false_xor]
  refine ⟨_, _, htold, hcalls, rfl, halternate, h.inStep hagrees, ?_, ?_⟩
  · rintro rfl
    constructor
    · rw [Sound.callsFor_mixer]
      intro i hi
      rw [List.getElem_map, halternate i (by rwa [List.length_map] at hi)]
      simp only [decide_eq_true_eq]
    · rw [SoundCall.arePlaying, foldl_playsAfter_callsFor, List.getLastD_eq_getLast?]
      cases (soundings deeds).getLast? <;> simp
  · rintro rfl
    exact Sound.callsFor_bell false _

/-- An emulator with a mixer, whose program sets the sound timer to five and then jumps in place. -/
def beeping : Emulator :=
  { bare #[0x61, 0x05, 0xF1, 0x18, 0x10, 0x04] 400 with sound := (Sound.start .mixer).1 }

/-- A slice in which the timer is set and ticks once, and a call of the buzzer once the timer has been
cleared: the mixer is called to play and then to stop. -/
theorem buzzer_follows_timer_cleared :
    ∃ deeds last, Pace.start (some (.whole 400)) = .ok beeping.pace ∧
      beeping.sound = (Sound.start .mixer).1 ∧ History beeping deeds last ∧
      soundings deeds = [true, false] ∧ last.host.told = [true, false] ∧
      SoundCall.arePlaying last.host.soundCalls = false := by
  have hpace : Pace.start (some (.whole 400)) = .ok beeping.pace := rfl
  have htold {deeds : List Deed} {last : Emulator} (h : History beeping deeds last)
      (hstates : soundings deeds = [true, false]) :
      last.host.told = [true, false] ∧ SoundCall.arePlaying last.host.soundCalls = false := by
    obtain ⟨told, calls, htold, hcalls, hswitches, -, -, hmixer, -⟩ :=
      buzzer_follows_timer hpace rfl h
    rw [hstates] at hswitches hmixer
    rw [htold, hcalls, hswitches]
    exact ⟨rfl, Bool.eq_false_iff.2 fun hplaying => nomatch (hmixer rfl).2.1 hplaying⟩
  have hdue : beeping.Owes 0.02 8 1 := ⟨by rfl, by rfl⟩
  have hslice : (advanceBy (.real 0.02)).run beeping = _ :=
    run_advanceBy_of_owes rfl hdue (by decide +kernel)
  let sounded := beeping.advanced 0.02 8 1
  let cleared : Emulator := { sounded with machine := { sounded.machine with timers := .zero } }
  have hclear : Aside sounded cleared := ⟨rfl, rfl, rfl⟩
  have hhistory := ((History.nil.snoc (.slice hslice)).snoc (.aside hclear)).snoc
    (.buzzer (run_updateBuzzer cleared))
  have hsoundings : [sounded.isSounding, cleared.buzzed.isSounding] = [true, false] := by
    rw [cleared.buzzed.isSounding_eq, machine_buzzed]
    decide +kernel
  exact ⟨_, _, hpace, rfl, hhistory, hsoundings, htold hhistory hsoundings⟩

end Emulator

end ChipEight
