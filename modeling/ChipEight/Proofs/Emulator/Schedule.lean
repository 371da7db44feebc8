import Mathlib.Data.List.Chain
import ChipEight.Proofs.Emulator.TimerClock
import ChipEight.Proofs.Emulator.Trace

/-!
# Proofs/Emulator/Schedule — a run neither loses nor repeats time, polls or frames

A turn does what its readings of the clock and those of the turns before it make due, and nothing
else.  Turns follow one another so, whatever the readings are and also if they go back, until the user
quits or something fails.

* `Turn`, `Turn.events` — a turn, and what it notes;
* `frameDue`, `reportDue` — the readings from which on the next poll and the next report are due;
* `Turn.Lawful`, `Scheduled` — **what a turn does after those before it**, and turns that all do so;
* `RunQuits`, `RunBreaks` — the trace of a run that the user ends, and of one that fails, with what it
  fails for;
* `Scheduled.isChain_of_due`, `Scheduled.map_seconds` — polls and reports are some time apart, and the
  slices of time are the times between the readings;
* `does_turn`, `does_turns` — what one turn does, and what all of them do;
* `run_turns_eq`, `OnScheduleFor.onSchedule` — a bound on the turns that the clock cannot reach makes no
  difference;
* `run_on_schedule` — **every run is on schedule**.
-/

namespace ChipEight.Emulator

/-! ## Turns -/

/-- A turn that neither quits nor fails. -/
structure Turn where
  /-- The reading it begins with. -/
  now : Float
  /-- Whether the keys are polled, and the frame shown. -/
  polled : Bool
  /-- The title it sets, if it reports the performance. -/
  title : Option String
  /-- The time by which it moves the machine on. -/
  seconds : Float
  /-- The reading at its end. -/
  later : Float
  /-- How long it sleeps, if it does. -/
  slept : Option Float

namespace Turn

/-- What a turn notes up to its slice of time. -/
def begun (t : Turn) : List Event :=
  .clockRead t.now :: ((if t.polled then [.polled false, .refreshed] else []) ++
    (t.title.toList.map .titled ++ [.advanced t.seconds]))

/-- **What a turn notes.** -/
def events (t : Turn) : List Event :=
  t.begun ++ .clockRead t.later :: t.slept.toList.map .slept

/-- A turn reads the clock. -/
theorem countP_isReading_events_pos (t : Turn) : 0 < t.events.countP Event.isReading :=
  List.countP_pos_iff.2 ⟨.clockRead t.now, List.mem_cons_self, rfl⟩

end Turn

/-! ## What is due

The turns before it tell a turn what is due, by their readings and by what they did. -/

section History

variable (start : Float) (turns : List Turn)

/-- The reading at the start of the last turn, or at the start of the run. -/
def lastReading : Float := turns.getLast?.elim start Turn.now

/-- The reading from which on something is due that turns do from time to time: a first one, or some time
after the last turn that did it. -/
def dueAfter (first gap : Float) (happens : Turn → Bool) : Float :=
  (turns.filter happens).getLast?.elim first fun t => t.now + gap

/-- The reading from which on a poll and a frame are due: the start of the run, or a sixtieth of a
second after the last poll. -/
def frameDue : Float := dueAfter turns start frameInterval Turn.polled

/-- The reading from which on a report is due: a second after the start of the run, or after the last
report. -/
def reportDue : Float := dueAfter turns (start + reportInterval) reportInterval fun t => t.title.isSome

@[simp] theorem lastReading_concat (t : Turn) : lastReading start (turns ++ [t]) = t.now := by
  rw [lastReading, List.getLast?_concat]
  rfl

theorem dueAfter_concat (first gap : Float) (happens : Turn → Bool) (t : Turn) :
    dueAfter (turns ++ [t]) first gap happens =
      if happens t then t.now + gap else dueAfter turns first gap happens := by
  rw [dueAfter, List.filter_append, List.filter_cons]
  split
  · rw [List.filter_nil, List.getLast?_concat]
    rfl
  · rw [List.filter_nil, List.append_nil, dueAfter]

end History

/-- **What a turn does after those before it**, in a run with a first reading and some time between two
instructions. -/
structure Turn.Lawful (start interval : Float) (before : List Turn) (t : Turn) : Prop where
  /-- The keys are polled if and only if it is time. -/
  polled_iff : t.polled = true ↔ frameDue start before ≤ t.now
  /-- The performance is reported if and only if it is time. -/
  title_iff : t.title.isSome = true ↔ reportDue start before ≤ t.now
  /-- The machine is moved on by the time since the reading before. -/
  seconds_eq : t.seconds = t.now - lastReading start before
  /-- The sleep is the time to the next frame or between two instructions, the shorter of the two, if
  that is any time. -/
  slept_iff : ∀ seconds, t.slept = some seconds ↔
    (seconds = let untilFrame := frameDue start (before ++ [t]) - t.later
      if untilFrame < interval then untilFrame else interval) ∧ 0.0 < seconds

/-- **Turns that all do what is due** after those before them. -/
inductive Scheduled (start interval : Float) : List Turn → Prop where
  /-- No turn yet. -/
  | nil : Scheduled start interval []
  /-- A turn after others. -/
  | snoc {before : List Turn} {t : Turn} (hbefore : Scheduled start interval before)
    (hlawful : t.Lawful start interval before) : Scheduled start interval (before ++ [t])

/-- **What turns do when it is due they do some time apart**, reading by reading. -/
theorem Scheduled.isChain_of_due {start interval first gap : Float} {happens : Turn → Bool}
    {turns : List Turn} (h : Scheduled start interval turns)
    (hdue : ∀ before t, t.Lawful start interval before → happens t = true →
      dueAfter before first gap happens ≤ t.now) :
    ((turns.filter happens).map Turn.now).IsChain fun last now => last + gap ≤ now := by
  induction h with
  | nil => exact .nil
  | @snoc before t _ hlawful ih =>
    rw [List.filter_append, List.filter_cons]
    split
    next hhappens =>
      have hnext := hdue before t hlawful hhappens
      rw [List.filter_nil, List.map_append]
      refine ih.append (.singleton _) fun last hlast now hnow => ?_
      rw [List.getLast?_map] at hlast
      obtain ⟨t', ht', rfl⟩ := Option.map_eq_some_iff.1 hlast
      obtain rfl := Option.some.inj hnow
      rwa [dueAfter, ht'] at hnext
    next => rwa [List.filter_nil, List.append_nil]

/-- The times between readings, from a first one on. -/
def differences (start : Float) : List Float → List Float
  | [] => []
  | now :: rest => (now - start) :: differences now rest

theorem differences_concat (start : Float) (readings : List Float) (now : Float) :
    differences start (readings ++ [now]) =
      differences start readings ++ [now - readings.getLast?.getD start] := by
  induction readings generalizing start with
  | nil => rfl
  | cons first rest ih =>
    rw [List.cons_append, differences, ih, differences, List.getLast?_cons]
    rfl

/-- **The slices of time are the times between the turns' readings**, without a gap or an overlap. -/
theorem Scheduled.map_seconds {start interval : Float} {turns : List Turn}
    (h : Scheduled start interval turns) :
    turns.map Turn.seconds = differences start (turns.map Turn.now) := by
  induction h with
  | nil => rfl
  | snoc hbefore hlawful ih =>
    rw [List.map_append, List.map_append, List.map_singleton, List.map_singleton, differences_concat,
      ih, hlawful.seconds_eq, lastReading, List.getLast?_map]
    cases List.getLast? _ <;> rfl

/-- A turn spends one slice of time. -/
theorem Turn.spend_events (elapsed : Float) (t : Turn) :
    spend elapsed t.events = elapsed + t.seconds := by
  obtain ⟨now, polled, title, seconds, later, slept⟩ := t
  cases polled <;> cases title <;> cases slept <;> rfl

/-- What turns spend is their slices of time. -/
theorem spend_flatMap_events (elapsed : Float) (turns : List Turn) :
    spend elapsed (turns.flatMap Turn.events) =
      (turns.map Turn.seconds).foldl (· + ·) elapsed := by
  induction turns generalizing elapsed with
  | nil => rfl
  | cons t rest ih =>
    rw [List.flatMap_cons, spend_append, t.spend_events, ih, List.map_cons, List.foldl_cons]

/-! ## Runs -/

/-- **How far a turn that fails has come, and what fails**, with a failure and the emulator left by it:
the clock does not answer, or the poll that is due fails, or the slice of time. -/
inductive Turn.Breaks (start interval : Float) (before : List Turn) (failure : Failure)
    (last : Emulator) : List Event → Prop where
  /-- The clock does not answer at the start of the turn. -/
  | unread (hclock : Unanswered failure last) : Breaks start interval before failure last []
  /-- The poll that is due fails. -/
  | unpolled {now : Float} {ready : Emulator} (hdue : frameDue start before ≤ now)
    (hpoll : poll.run ready = .error failure last) :
    Breaks start interval before failure last [.clockRead now]
  /-- The slice of time of a lawful turn fails. -/
  | unadvanced {t : Turn} {ready : Emulator} (hlawful : t.Lawful start interval before)
    (hadvance : (advance t.seconds).run ready = .error failure last) :
    Breaks start interval before failure last t.begun
  /-- The clock does not answer at the end of a lawful turn. -/
  | unfinished {t : Turn} (hlawful : t.Lawful start interval before)
    (hclock : Unanswered failure last) : Breaks start interval before failure last t.begun

/-- **The trace of a run that the user ends**, at a speed: a first reading, turns, and a poll when it is
time that nothing comes after. -/
inductive RunQuits (speed : Quantity) : List Event → Prop where
  | quit {start rate now : Float} {turns : List Turn} (hspeed : speed.toFloat = .ok rate)
    (hturns : Scheduled start (1.0 / rate) turns) (hdue : frameDue start turns ≤ now) :
    RunQuits speed (.clockRead start :: (turns.flatMap Turn.events ++ [.clockRead now, .polled true]))

/-- **The trace of a run that fails**, at a speed: without a first reading, for a speed beyond every
double, or within a turn after others. -/
inductive RunBreaks (speed : Quantity) (failure : Failure) (last : Emulator) : List Event → Prop where
  /-- The clock does not answer before the first turn. -/
  | unread (hclock : Unanswered failure last) : RunBreaks speed failure last []
  /-- The speed has no double. -/
  | unpaced {start : Float} (hspeed : speed.toFloat = .error failure) :
    RunBreaks speed failure last [.clockRead start]
  /-- A turn fails. -/
  | inTurn {start rate : Float} {turns : List Turn} {rest : List Event}
    (hspeed : speed.toFloat = .ok rate) (hturns : Scheduled start (1.0 / rate) turns)
    (hrest : Turn.Breaks start (1.0 / rate) turns failure last rest) :
    RunBreaks speed failure last (.clockRead start :: (turns.flatMap Turn.events ++ rest))

/-- **A run on schedule**: its trace is that of a run which the user ends if it returns, and that of a
run which fails for what it fails for if it does not. -/
def OnSchedule (e : Emulator) (result : EStateM.Result Failure Emulator Unit) : Prop :=
  e.Ends (fun _ => RunQuits e.pace.speed) (RunBreaks e.pace.speed) result

/-- The trace of a run that fails, or that is cut off after some turns. -/
inductive RunStops (speed : Quantity) (n : Nat) (failure : Failure) (last : Emulator) :
    List Event → Prop where
  /-- It fails. -/
  | breaks {events : List Event} (hbreaks : RunBreaks speed failure last events) :
    RunStops speed n failure last events
  /-- It has made as many turns as it may. -/
  | cutOff {start rate : Float} {turns : List Turn} (hspeed : speed.toFloat = .ok rate)
    (hturns : Scheduled start (1.0 / rate) turns) (hlength : turns.length = n)
    (hfailure : failure = .interrupted) :
    RunStops speed n failure last (.clockRead start :: turns.flatMap Turn.events)

/-- **A run on schedule that may be cut off** after some turns. -/
def OnScheduleFor (e : Emulator) (n : Nat) (result : EStateM.Result Failure Emulator Unit) : Prop :=
  e.Ends (fun _ => RunQuits e.pace.speed) (RunStops e.pace.speed n) result

/-- Every turn reads the clock. -/
theorem length_le_countP_isReading (turns : List Turn) :
    turns.length ≤ (turns.flatMap Turn.events).countP Event.isReading := by
  induction turns with
  | nil => exact Nat.le_refl 0
  | cons t rest ih =>
    have hreads := t.countP_isReading_events_pos
    rw [List.flatMap_cons, List.countP_append, List.length_cons]
    omega

/-- **A run is not cut off after as many turns as the clock has answers.** -/
theorem OnScheduleFor.onSchedule {e : Emulator} {n : Nat}
    {result : EStateM.Result Failure Emulator Unit} (h : e.OnScheduleFor n result)
    (hn : e.host.clock.remaining ≤ n) : e.OnSchedule result := by
  cases h with
  | ok events hadds hquits => exact .ok events hadds hquits
  | error events hadds hstops =>
    cases hstops with
    | breaks hbreaks => exact .error events hadds hbreaks
    | @cutOff start rate turns _ _ hlength =>
      -- one reading for each turn, and one before the first
      have hreads := length_le_countP_isReading turns
      have hremaining := hadds.remaining_eq
      rw [List.countP_cons_of_pos rfl] at hremaining
      omega

/-! ## The turn that the deadlines make due

A run keeps deadlines and no history.  They are those that its turns so far make due, and so the turn
that they make due is a lawful one. -/

namespace Deadlines

/-- The deadlines after a turn that begins at a time. -/
def after (d : Deadlines) (now : Float) : Deadlines where
  last := now
  nextFrame := if d.nextFrame ≤ now then now + frameInterval else d.nextFrame
  nextReport := if d.nextReport ≤ now then now + reportInterval else d.nextReport
  stepInterval := d.stepInterval

/-- The turn between two readings, with what its title would tell. -/
def turn (d : Deadlines) (now : Float) (title : String) (later : Float) : Turn where
  now
  polled := d.nextFrame ≤ now
  title := if d.nextReport ≤ now then some title else none
  seconds := now - d.last
  later
  slept := if 0.0 < (d.after now).sleepTime later then some ((d.after now).sleepTime later) else none

/-- The deadlines after some turns. -/
def ofTurns (start interval : Float) (turns : List Turn) : Deadlines where
  last := lastReading start turns
  nextFrame := frameDue start turns
  nextReport := reportDue start turns
  stepInterval := interval

theorem ofTurns_nil (start interval : Float) : ofTurns start interval [] = .start start interval := rfl

variable (start interval : Float) (before : List Turn) (now : Float) (title : String) (later : Float)

/-- An event that is noted or not. -/
theorem map_toList_ite {α : Type} (noted : Prop) [Decidable noted] (a : α) (event : α → Event) :
    (if noted then some a else none).toList.map event = if noted then [event a] else [] := by
  split <;> rfl

theorem isSome_title_turn (d : Deadlines) :
    (d.turn now title later).title.isSome = true ↔ d.nextReport ≤ now := by
  unfold turn
  split <;> simp_all

/-- The turn that is due leaves the deadlines of the turns with it. -/
theorem after_ofTurns :
    (ofTurns start interval before).after now = ofTurns start interval
      (before ++ [(ofTurns start interval before).turn now title later]) := by
  simp only [ofTurns, lastReading_concat, frameDue, reportDue, dueAfter_concat, isSome_title_turn]
  simp only [turn, after, decide_eq_true_eq]

/-- **The turn that is due does what is due.** -/
theorem lawful_turn :
    ((ofTurns start interval before).turn now title later).Lawful start interval before where
  polled_iff := decide_eq_true_iff
  title_iff := isSome_title_turn ..
  seconds_eq := rfl
  slept_iff seconds := by
    have hafter := after_ofTurns start interval before now title later
    have hframe : ((ofTurns start interval before).after now).nextFrame = frameDue start
      (before ++ [(ofTurns start interval before).turn now title later]) := by rw [hafter]; rfl
    rw [← hframe]
    change (if 0.0 < (after _ now).sleepTime later then some _ else none) = some seconds ↔
      seconds = (after _ now).sleepTime later ∧ 0.0 < seconds
    split
    next hpositive =>
      rw [Option.some_inj]
      exact ⟨fun heq => ⟨heq.symm, heq ▸ hpositive⟩, fun h => h.1.symm⟩
    next hpositive => exact ⟨nofun, fun h => absurd (h.1 ▸ h.2) hpositive⟩

/-- What the turn that is due notes up to its slice of time. -/
theorem begun_turn (d : Deadlines) :
    (d.turn now title later).begun =
      .clockRead now :: ((if d.nextFrame ≤ now then [.polled false, .refreshed] else []) ++
        ((if d.nextReport ≤ now then [.titled title] else []) ++ [.advanced (now - d.last)])) := by
  simp only [Turn.begun, turn, decide_eq_true_eq, map_toList_ite]

/-- What the turn that is due notes. -/
theorem events_turn (d : Deadlines) :
    (d.turn now title later).events =
      (d.turn now title later).begun ++ .clockRead later ::
        if 0.0 < (d.after now).sleepTime later then [.slept ((d.after now).sleepTime later)]
        else [] := by
  simp only [Turn.events, turn, map_toList_ite]

end Deadlines

/-! ## The parts of a turn -/

section Parts

variable (d : Deadlines) (now : Float)

/-- A frame that is due is shown after a poll, unless the poll ends the run. -/
theorem does_serveFrame :
    Does (serveFrame d now)
      (fun served events => d.nextFrame ≤ now ∧ served = none ∧ events = [.polled true] ∨
        served = some { d with nextFrame := (d.after now).nextFrame } ∧
          events = if d.nextFrame ≤ now then [.polled false, .refreshed] else [])
      fun failure last events =>
        d.nextFrame ≤ now ∧ events = [] ∧ ∃ ready, poll.run ready = .error failure last := by
  rw [serveFrame]
  split
  next hdue =>
    refine does_poll.bind (fun _ _ events hfailed => ⟨hdue, hfailed⟩) fun quit events hpoll => ?_
    subst hpoll
    cases quit with
    | true => exact .pure (.inl ⟨hdue, rfl, rfl⟩)
    | false =>
      refine does_refreshDisplay.bind (fun _ _ _ => False.elim) fun _ events hframe => ?_
      subst hframe
      refine .pure (.inr ⟨?_, rfl⟩)
      rw [Deadlines.after, if_pos hdue]
  next hdue =>
    refine .pure (.inr ⟨?_, rfl⟩)
    rw [Deadlines.after, if_neg hdue]

/-- A report that is due sets the title. -/
theorem does_serveReport :
    Does (serveReport d now)
      (fun served events => served = { d with nextReport := (d.after now).nextReport } ∧
        ∃ title : String, events = if d.nextReport ≤ now then [.titled title] else [])
      Never := by
  rw [serveReport]
  split
  next hdue =>
    refine does_reportPerformance.bind (fun _ _ _ => id) fun _ events hreport => ?_
    obtain ⟨title, rfl⟩ := hreport
    refine .pure ⟨?_, title, rfl⟩
    rw [Deadlines.after, if_pos hdue]
  next hdue =>
    refine .pure ⟨?_, "", rfl⟩
    rw [Deadlines.after, if_neg hdue]

/-- A turn sleeps unless there is no time to. -/
theorem does_rest (later : Float) :
    Does (rest d later)
      (fun _ events => events =
        if 0.0 < d.sleepTime later then [.slept (d.sleepTime later)] else [])
      Never := by
  rw [rest]
  split
  · exact does_sleep _
  · exact .pure rfl

end Parts

section Turns

variable (start interval : Float) (before : List Turn)

/-- What a turn after others does up to its second reading. -/
theorem does_work (now : Float) :
    let d := Deadlines.ofTurns start interval before
    Does (work d now)
      (fun worked events => d.nextFrame ≤ now ∧ worked = none ∧ events = [.polled true] ∨
        worked = some (d.after now) ∧
          ∃ title, ∀ later, .clockRead now :: events = (d.turn now title later).begun)
      fun failure last events =>
        Turn.Breaks start interval before failure last (.clockRead now :: events) := by
  intro d
  refine (does_serveFrame d now).bind (fun failure last events hfailed => ?_)
    fun served events hserved => ?_
  · obtain ⟨hdue, rfl, ready, hpoll⟩ := hfailed
    exact .unpolled hdue hpoll
  obtain ⟨hdue, rfl, rfl⟩ | ⟨rfl, rfl⟩ := hserved
  · exact .pure (.inl ⟨hdue, rfl, rfl⟩)
  refine (does_serveReport _ now).bind (fun _ _ _ => False.elim) fun served events hserved => ?_
  obtain ⟨rfl, title, rfl⟩ := hserved
  have hbegun (later : Float) := d.begun_turn now title later
  refine (does_advance _).bind (fun failure last events hfailed => ?_)
    fun _ events hadvance => .pure (.inr ⟨rfl, title, fun later => ?_⟩)
  · obtain ⟨rfl, ready, hadvance⟩ := hfailed
    rw [← hbegun 0.0]
    exact .unadvanced (Deadlines.lawful_turn ..) hadvance
  · rw [hadvance, hbegun, List.append_nil]

/-- **What a turn after others does**: it ends with a poll, or does what is due and leaves the deadlines
after it. -/
theorem does_turn :
    let d := Deadlines.ofTurns start interval before
    Does (turn d)
      (fun next events =>
        (next = none ∧ ∃ now, d.nextFrame ≤ now ∧ events = [.clockRead now, .polled true]) ∨
        ∃ now title later, next = some (d.after now) ∧ events = (d.turn now title later).events)
      (Turn.Breaks start interval before) := by
  intro d
  refine does_readClock.bind (fun failure last events hfailed => ?_) fun now events hread => ?_
  · obtain ⟨rfl, hclock⟩ := hfailed
    exact .unread hclock
  subst hread
  refine (does_work start interval before now).bind (fun _ _ _ => id) fun worked events hworked => ?_
  obtain ⟨hdue, rfl, rfl⟩ | ⟨rfl, title, hbegun⟩ := hworked
  · exact .pure (.inl ⟨rfl, now, hdue, rfl⟩)
  refine does_readClock.bind (fun failure last events hfailed => ?_) fun later events hread => ?_
  · obtain ⟨rfl, hclock⟩ := hfailed
    rw [List.append_nil, List.singleton_append, hbegun 0.0]
    exact .unfinished (Deadlines.lawful_turn ..) hclock
  subst hread
  refine (does_rest _ later).bind (fun _ _ _ => False.elim) fun _ events hslept => ?_
  refine .pure (.inr ⟨now, title, later, rfl, ?_⟩)
  rw [d.events_turn, ← hbegun, hslept, List.append_nil]
  rfl

end Turns

/-! ## Runs on schedule -/

/-- **Turns after others are on schedule**, by induction on how many may begin: a turn that the user
does not end is lawful, and the deadlines it leaves are those of the turns with it. -/
theorem does_turns {speed : Quantity} {start rate : Float} (hspeed : speed.toFloat = .ok rate)
    {before : List Turn} (hbefore : Scheduled start (1.0 / rate) before) (n : Nat) :
    Does (turns (.ofTurns start (1.0 / rate) before) n)
      (fun _ more => RunQuits speed (.clockRead start :: (before.flatMap Turn.events ++ more)))
      fun failure last more => RunStops speed (before.length + n) failure last
        (.clockRead start :: (before.flatMap Turn.events ++ more)) := by
  induction n generalizing before with
  | zero =>
    refine .throw _ fun last => ?_
    rw [List.append_nil]
    exact .cutOff hspeed hbefore rfl rfl
  | succ n ih =>
    refine (does_turn start (1.0 / rate) before).bind
      (fun _ _ _ hbreaks => .breaks (.inTurn hspeed hbefore hbreaks)) fun next events hturn => ?_
    obtain ⟨rfl, now, hdue, rfl⟩ | ⟨now, title, later, rfl, rfl⟩ := hturn
    · exact .pure (.quit hspeed hbefore hdue)
    have hnext := hbefore.snoc (Deadlines.lawful_turn _ _ before now title later)
    have hrest := ih hnext
    rw [← Deadlines.after_ofTurns] at hrest
    simp only [List.flatMap_append, List.flatMap_singleton, List.append_assoc, List.length_append,
      List.length_singleton, Nat.add_assoc, Nat.add_comm 1 n] at hrest
    exact hrest

/-- **The start of a run in every case.** -/
theorem run_startRun (e : Emulator) :
    startRun.run e =
      match e.host.clock.read with
      | none => .error .interrupted e
      | some (start, clock) =>
        match e.pace.speed.toFloat with
        | .error failure => .error failure (e.timed start clock)
        | .ok rate => .ok (.start start (1.0 / rate)) (e.timed start clock) := by
  simp only [startRun, EStateM.run_bind, EStateM.run_get, run_readClock]
  rcases e.host.clock.read with _ | ⟨start, clock⟩
  · rfl
  · change (attempt e.pace.speed.toFloat >>= _ : Act Deadlines).run _ = _
    rcases e.pace.speed.toFloat with failure | rate <;> rfl

/-- A run that is cut off after a number of turns. -/
def runFor (n : Nat) : Act Unit := do turns (← startRun) n

/-- **A run is on schedule**, wherever it is cut off. -/
theorem onScheduleFor_runFor (e : Emulator) (n : Nat) : e.OnScheduleFor n ((runFor n).run e) := by
  rw [runFor, EStateM.run_bind, run_startRun]
  rcases hread : e.host.clock.read with _ | ⟨start, clock⟩
  · exact .error [] (.refl e) (.breaks (.unread ⟨rfl, hread⟩))
  have hadds := adds_timed hread
  rcases hspeed : e.pace.speed.toFloat with failure | rate
  · exact .error [.clockRead start] hadds (.breaks (.unpaced hspeed))
  · have hbefore : Scheduled start (1.0 / rate) [] := .nil
    have hturns := does_turns hspeed hbefore n (e.timed start clock)
    rw [Deadlines.ofTurns_nil, List.length_nil, Nat.zero_add] at hturns
    exact hturns.prepend hadds

/-- **The number of turns that may begin makes no difference** if the clock cannot answer for all of
them. -/
theorem run_turns_eq (start interval : Float) (before : List Turn) {e : Emulator} {n m : Nat}
    (hn : e.host.clock.remaining < n) (hm : e.host.clock.remaining < m) :
    (turns (.ofTurns start interval before) n).run e =
      (turns (.ofTurns start interval before) m).run e := by
  induction n generalizing before e m with
  | zero => exact absurd hn (Nat.not_lt_zero _)
  | succ n ih =>
    obtain _ | m := m
    · exact absurd hm (Nat.not_lt_zero _)
    have hturn := does_turn start interval before e
    simp only [turns, EStateM.run_bind]
    rcases hrun : (turn (.ofTurns start interval before)).run e with ⟨next, e'⟩ | ⟨failure, e'⟩
    · rw [hrun] at hturn
      cases hturn with
      | ok events hadds hdone =>
        obtain ⟨rfl, -⟩ | ⟨now, title, later, rfl, rfl⟩ := hdone
        · rfl
        · have hremaining := hadds.remaining_eq
          have hreads := Turn.countP_isReading_events_pos
            ((Deadlines.ofTurns start interval before).turn now title later)
          rw [Deadlines.after_ofTurns start interval before now title later]
          exact ih _ (by omega) (by omega)
    · rfl

/-- **Cutting a run off** after no fewer turns than the clock has answers makes no difference. -/
theorem run_runFor_eq {e : Emulator} {n : Nat} (hn : e.host.clock.remaining ≤ n) :
    (runFor n).run e = run.run e := by
  simp only [runFor, run, EStateM.run_bind, EStateM.run_get, run_startRun]
  rcases hread : e.host.clock.read with _ | ⟨start, clock⟩
  · rfl
  have hremaining := Clock.remaining_read hread
  rcases e.pace.speed.toFloat with failure | rate
  · rfl
  · exact run_turns_eq start (1.0 / rate) [] (show clock.remaining < n by omega)
      (Nat.lt_succ_self _)

/-- **Every run is on schedule**, and if it fails it says what for: the clock does not answer, or a poll
or a slice of time fails.  So is a run that is cut off after any number of turns; and no number of turns
cuts a run off that the clock has no more answers for.  Turns on schedule poll and report some time
apart, and what they spend are the times between their readings. -/
theorem run_on_schedule (e : Emulator) :
    e.OnSchedule (run.run e) ∧
    (∀ n, e.OnScheduleFor n ((runFor n).run e) ∧
      (e.host.clock.remaining ≤ n → (runFor n).run e = run.run e)) ∧
    ∀ start interval turns, Scheduled start interval turns →
      ((turns.filter Turn.polled).map Turn.now).IsChain (fun last now => last + frameInterval ≤ now) ∧
      ((turns.filter fun t => t.title.isSome).map Turn.now).IsChain
        (fun last now => last + reportInterval ≤ now) ∧
      ∀ elapsed, spend elapsed (turns.flatMap Turn.events) =
        (differences start (turns.map Turn.now)).foldl (· + ·) elapsed := by
  refine ⟨?_, fun n => ⟨e.onScheduleFor_runFor n, run_runFor_eq⟩, fun start interval turns h =>
    ⟨h.isChain_of_due fun _ _ hlawful => hlawful.polled_iff.1,
      h.isChain_of_due fun _ _ hlawful => hlawful.title_iff.1, fun elapsed => ?_⟩⟩
  · have hcut := e.onScheduleFor_runFor e.host.clock.remaining
    rw [run_runFor_eq (Nat.le_refl _)] at hcut
    exact hcut.onSchedule (Nat.le_refl _)
  · rw [spend_flatMap_events, h.map_seconds]

/-- A program that waits for a key, at sixty-four instructions a second, on a clock with eight
readings.  The user quits at the third poll. -/
def timetable : Emulator :=
  { bare #[0xF0, 0x0A] 64 with
    input := .script [[], [], [.quit]]
    host := { Host.quiet with
      clock := ⟨some [0.0, 0.0, 0.0, 0.015625, 0.5, 1.0, 1.0, 2.0], 0.0, 0.0, 8⟩ } }

/-- A turn that polls and sleeps, one for which nothing is due and no time is left, one that reports as
well, and one in which the user quits. -/
def timetableTrace : List Event :=
  [.clockRead 0.0,
    .clockRead 0.0, .polled false, .refreshed, .advanced 0.0, .clockRead 0.0, .slept 0.015625,
    .clockRead 0.015625, .advanced 0.015625, .clockRead 0.5,
    .clockRead 1.0, .polled false, .refreshed, .titled "CHIP-8 VM - 2 FPS, 1 OPS",
      .advanced 0.984375, .clockRead 1.0, .slept 0.015625,
    .clockRead 2.0, .polled true]

/-- These turns are on schedule, and their slices of time come to one second. -/
theorem run_on_schedule_timetable :
    ∃ last, run.run timetable = .ok () last ∧ last.host.trace = timetableTrace ∧
      RunQuits (.whole 64) timetableTrace ∧ last.pace.elapsed = 1.0 := by
  have htrace : (left (run.run timetable)).host.trace = timetableTrace := by decide +kernel
  have hreturns : (run.run' timetable).isSome = true := by decide +kernel
  obtain ⟨hschedule, -⟩ := run_on_schedule timetable
  rcases hrun : run.run timetable with ⟨⟨⟩, last⟩ | ⟨failure, last⟩
  · rw [hrun] at htrace hschedule
    cases hschedule with
    | ok events hadds hquits =>
      obtain rfl : events = timetableTrace := hadds.trace_eq.symm.trans htrace
      refine ⟨last, rfl, htrace, hquits, hadds.elapsed_eq.trans ?_⟩
      decide +kernel
  · delta EStateM.run' at hreturns
    rw [hrun] at hreturns
    cases hreturns

end ChipEight.Emulator
