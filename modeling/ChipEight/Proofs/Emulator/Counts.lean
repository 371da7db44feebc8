import ChipEight.Proofs.Emulator.Budget
import ChipEight.Proofs.Emulator.History
import ChipEight.Proofs.Machine.KeyWait

/-!
# Proofs/Emulator/Counts — no frame and no instruction is lost between two reports

An emulator counts its frames and its instructions until a report, which shows both counts in the title
and begins them anew.  So what has been reported and what is still counted always make up the whole,
in whatever order slices, frames and reports come.

* `Machine.trail` — the machines that the steps of a burst begin with, one for each;
* `Machine.burst_eq_of_trail` — a burst makes these steps, and counts those that run an instruction;
* `Figures.title_injective` — a title tells the figures in it;
* `Emulator.Reports` — what is reported between two emulators, and what is still counted;
* `Performs.reports`, `History.reports` — what one call reports and counts, and what a history does;
* `Performs.ops_eq` — what a slice returns, told from its steps;
* `counts_conserved` — **every frame and every instruction is reported once, or still counted**.
-/

namespace ChipEight

/-! ## The steps of a burst -/

namespace Machine

/-- Whether the next step runs an instruction. -/
def runsNext (m : Machine) : Bool :=
  match m.step.result with
  | .ok ran => ran
  | .error _ => false

/-- **The machines that the steps of a burst begin with**: a step that runs no instruction is the
last. -/
def trail (m : Machine) : Nat → List Machine
  | 0 => []
  | budget + 1 => m :: if m.runsNext then m.step.machine.trail budget else []

/-- **One step follows the other.** -/
theorem trail_eq_map_stepped (m : Machine) (budget : Nat) :
    m.trail budget = (List.range (m.trail budget).length).map m.stepped := by
  induction budget generalizing m with
  | zero => rfl
  | succ budget ih =>
    rw [trail]
    split
    · rw [List.length_cons, List.range_succ_eq_map, List.map_cons, List.map_map]
      exact congrArg (m :: ·) (ih m.step.machine)
    · rfl

theorem continueBurst_eq_of_trail (b : Burst) (budget : Nat) :
    (continueBurst b budget).machine = b.machine.stepped (b.machine.trail budget).length ∧
      (continueBurst b budget).ops = b.ops + (b.machine.trail budget).countP runsNext := by
  induction budget generalizing b with
  | zero => exact ⟨rfl, rfl⟩
  | succ budget ih =>
    rw [continueBurst, trail]
    rcases hresult : b.machine.step.result with failure | ran
    · have hruns : b.machine.runsNext = false := by rw [runsNext, hresult]
      simp [hruns, stepped]
    · have hruns : b.machine.runsNext = ran := by rw [runsNext, hresult]
      cases ran with
      | false => simp [hruns, stepped]
      | true =>
        obtain ⟨hmachine, hops⟩ := ih ⟨b.machine.step.machine, b.ops + 1,
          b.machine.step.printed.toList ++ b.printed, none⟩
        dsimp only
        rw [hmachine, hops, if_pos hruns, List.length_cons, List.countP_cons_of_pos hruns, stepped]
        exact ⟨rfl, Nat.add_right_comm ..⟩

/-- **A burst makes these steps, and counts those that run an instruction.** -/
theorem burst_eq_of_trail (m : Machine) (budget : Nat) :
    (m.burst budget).machine = m.stepped (m.trail budget).length ∧
      (m.burst budget).ops = (m.trail budget).countP runsNext := by
  have hburst := continueBurst_eq_of_trail ⟨m, 0, [], none⟩ budget
  rwa [Nat.zero_add] at hburst

/-- A step that is spent waiting for a key runs no instruction. -/
theorem runsNext_of_waiting {m : Machine} (hbefore : m.wait.active = true)
    (hafter : m.step.machine.wait.active = true) : m.runsNext = false := by
  rcases hnew : m.newKey? with _ | k
  · rw [runsNext, step_of_newKey?_eq_none hbefore hnew]
  · rw [step_of_newKey?_eq_some hbefore hnew] at hafter
    nomatch hafter

end Machine

/-! ## Titles -/

/-- The figures of a report. -/
structure Figures where
  frames : Nat
  ops : Nat

namespace Figures

/-- The title that tells some figures. -/
def title (f : Figures) : String := s!"CHIP-8 VM - {f.frames} FPS, {f.ops} OPS"

theorem toList_title (f : Figures) :
    f.title.toList = "CHIP-8 VM - ".toList ++ (Nat.toDigits 10 f.frames ++
      ' ' :: ("FPS, ".toList ++ (Nat.toDigits 10 f.ops ++ ' ' :: "OPS".toList))) := by
  have hframes : (toString " FPS, ").toList = ' ' :: "FPS, ".toList := by decide
  have hops : (toString " OPS").toList = ' ' :: "OPS".toList := by decide
  simp only [title, String.toList_append, Nat.toString_eq_repr, Nat.toList_repr, hframes, hops,
    List.append_assoc, List.cons_append]
  rfl

/-- **A title tells the figures in it.** -/
theorem title_injective : Function.Injective title := by
  -- the digits of a number end where the blank after them begins
  have hdigits (n : Nat) (rest : List Char) :
      (Nat.toDigits 10 n ++ ' ' :: rest).takeWhile Char.isDigit = Nat.toDigits 10 n := by
    rw [List.takeWhile_append_of_pos fun c hc => Nat.isDigit_of_mem_toDigits (by decide) (by decide) hc]
    exact List.append_nil _
  have hnumber {n n' : Nat} {rest rest' : List Char}
      (h : Nat.toDigits 10 n ++ ' ' :: rest = Nat.toDigits 10 n' ++ ' ' :: rest') :
      n = n' ∧ rest = rest' := by
    have hsame : Nat.toDigits 10 n = Nat.toDigits 10 n' := by
      rw [← hdigits n rest, h, hdigits]
    rw [hsame] at h
    refine ⟨?_, (List.cons.inj (List.append_cancel_left h)).2⟩
    calc n = Nat.ofDigitChars 10 (Nat.toDigits 10 n) 0 := Nat.ofDigitChars_ten_toDigits.symm
      _ = n' := by rw [hsame, Nat.ofDigitChars_ten_toDigits]
  rintro ⟨frames, ops⟩ ⟨frames', ops'⟩ h
  have hchars := congrArg String.toList h
  rw [toList_title, toList_title] at hchars
  obtain ⟨hframes, hrest⟩ := hnumber (List.append_cancel_left hchars)
  obtain ⟨hops, -⟩ := hnumber (List.append_cancel_left hrest)
  exact congrArg₂ Figures.mk hframes hops

end Figures

/-- The title that an event hands to the display. -/
def Event.title? : Event → Option String
  | .titled title => some title
  | _ => none

/-- Whether an event is a frame. -/
def Event.frame? : Event → Option Unit
  | .refreshed => some ()
  | _ => none

/-- The titles that the display has been handed, the earliest first. -/
def Host.titles (h : Host) : List String := h.events.filterMap Event.title?

/-- How many frames the display has been handed. -/
def Host.framesShown (h : Host) : Nat := (h.events.filterMap Event.frame?).length

/-- Titles and frames are services. -/
theorem Host.titles_eq (h : Host) : h.titles = h.services.filterMap Event.title? :=
  (filterMap_services (fun event hevent => by cases event <;> first | rfl | nomatch hevent) h).symm

theorem Host.framesShown_eq (h : Host) :
    h.framesShown = (h.services.filterMap Event.frame?).length :=
  congrArg List.length (filterMap_services
    (fun event hevent => by cases event <;> first | rfl | nomatch hevent) h).symm

namespace Emulator

/-! ## What a call reports and counts -/

/-- How many instructions a deed returned. -/
def Deed.ops : Deed → Nat
  | .slice _ ops _ => ops
  | _ => 0

/-- The machines that the steps of a deed begin with: those of the steps that fell due in it, up to
one that runs no instruction. -/
def Deed.steps : Deed → List Machine
  | .slice before _ after =>
    before.machine.trail (after.pace.stepsDone - before.pace.stepsDone).toNat
  | _ => []

/-- Whether a deed shows a frame. -/
def Deed.isRefresh : Deed → Bool
  | .refresh => true
  | _ => false

/-- **What is reported between two emulators**, in the course of some deeds, and what is still
counted. -/
structure Reports (e : Emulator) (deeds : List Deed) (reports : List Figures) (next : Emulator) :
    Prop where
  titles_eq : next.host.titles = e.host.titles ++ reports.map Figures.title
  shown_eq : next.host.framesShown = e.host.framesShown + deeds.countP Deed.isRefresh
  ops_eq : (reports.map Figures.ops).sum + next.pace.ops = e.pace.ops + (deeds.map Deed.ops).sum
  frames_eq : (reports.map Figures.frames).sum + next.pace.frames =
    e.pace.frames + deeds.countP Deed.isRefresh

namespace Reports

variable {e middle next : Emulator} {deeds more : List Deed} {reports others : List Figures}

/-- What is reported is told by the titles that are passed on, and what is shown by the frames. -/
theorem of_services {passed : List Event} (hservices : next.host.services = e.host.services ++ passed)
    (htitles : passed.filterMap Event.title? = reports.map Figures.title)
    (hshown : (passed.filterMap Event.frame?).length = deeds.countP Deed.isRefresh)
    (hops : (reports.map Figures.ops).sum + next.pace.ops = e.pace.ops + (deeds.map Deed.ops).sum)
    (hframes : (reports.map Figures.frames).sum + next.pace.frames =
      e.pace.frames + deeds.countP Deed.isRefresh) : e.Reports deeds reports next where
  titles_eq := by rw [Host.titles_eq, hservices, List.filterMap_append, htitles, Host.titles_eq]
  shown_eq := by
    rw [Host.framesShown_eq, hservices, List.filterMap_append, List.length_append, hshown,
      Host.framesShown_eq]
  ops_eq := hops
  frames_eq := hframes

/-- Nothing is reported or counted while time elapses. -/
theorem of_elapses (h : Elapses e next) : e.Reports [] [] next := by
  refine of_services (h.services_eq.trans (List.append_nil _).symm) rfl rfl ?_ ?_
  · rw [h.pace_eq]
    exact Nat.zero_add _
  · rw [h.pace_eq]
    exact Nat.zero_add _

theorem trans (h : e.Reports deeds reports middle) (h' : middle.Reports more others next) :
    e.Reports (deeds ++ more) (reports ++ others) next where
  titles_eq := by
    rw [h'.titles_eq, h.titles_eq, List.map_append, List.append_assoc]
  shown_eq := by
    rw [h'.shown_eq, h.shown_eq, List.countP_append, Nat.add_assoc]
  ops_eq := by
    have hfirst := h.ops_eq
    have hrest := h'.ops_eq
    simp only [List.map_append, List.sum_append]
    omega
  frames_eq := by
    have hfirst := h.frames_eq
    have hrest := h'.frames_eq
    simp only [List.map_append, List.sum_append, List.countP_append]
    omega

end Reports

/-- A change of the buzzer is neither a title nor a frame. -/
theorem filterMap_events_buzzed {α : Type} {f : Event → Option α}
    (hbuzzer : ∀ on, f (.buzzer on) = none) (hcall : ∀ call, f (.soundCall call) = none)
    (e : Emulator) : e.buzzed.host.events.filterMap f = e.host.events.filterMap f := by
  rw [buzzed]
  split
  · rw [Host.events_note_noteAll, List.filterMap_append, List.append_right_eq_self,
      List.filterMap_eq_nil_iff]
    exact List.forall_mem_cons.2 ⟨hbuzzer _, List.forall_mem_map.2 fun call _ => hcall call⟩
  · rfl

theorem reports_buzzed (e : Emulator) (deeds : List Deed)
    (hnone : deeds.countP Deed.isRefresh = 0) (hops : (deeds.map Deed.ops).sum = 0) :
    e.Reports deeds [] e.buzzed where
  titles_eq :=
    (filterMap_events_buzzed (fun _ => rfl) (fun _ => rfl) e).trans (List.append_nil _).symm
  shown_eq := by
    rw [hnone]
    exact congrArg List.length (filterMap_events_buzzed (fun _ => rfl) (fun _ => rfl) e)
  ops_eq := by
    rw [pace_buzzed, hops]
    exact Nat.zero_add _
  frames_eq := by
    rw [pace_buzzed, hnone]
    exact Nat.zero_add _

/-- **What one call reports, and counts**: a report tells both counts, and begins them anew. -/
theorem Performs.reports {e next : Emulator} {deeds : List Deed} (h : Performs e deeds next) :
    ∃ reports, e.Reports deeds reports next := by
  cases h with
  | @slice _ seconds done hrun =>
    obtain ⟨ready, helapses, rfl⟩ := exists_elapses_of_run_advanceBy hrun
    have hbuzzed := (Reports.of_elapses helapses).trans (reports_buzzed ready [] rfl rfl)
    have hcounted : ready.buzzed.Reports [.slice e done.1 (ready.buzzed.counted done.1)] []
        (ready.buzzed.counted done.1) :=
      .of_services (List.append_nil _).symm rfl rfl (Nat.zero_add _) (Nat.zero_add _)
    exact ⟨[], hbuzzed.trans hcounted⟩
  | fails hrun => exact ⟨[], .of_elapses (elapses_of_run_advanceBy hrun)⟩
  | buzzer hrun =>
    obtain rfl := (EStateM.Result.ok.inj ((run_updateBuzzer e).symm.trans hrun)).2
    exact ⟨[], reports_buzzed e _ rfl rfl⟩
  | refresh hrun =>
    obtain ⟨hpace, -, hservices⟩ := eq_of_run_refreshDisplay hrun
    refine ⟨[], .of_services hservices rfl rfl ?_ ?_⟩
    · rw [hpace]
      exact Nat.zero_add _
    · rw [hpace]
      exact Nat.zero_add _
  | report hrun =>
    obtain ⟨hpace, -, hservices⟩ := eq_of_run_reportPerformance hrun
    refine ⟨[⟨e.pace.frames, e.pace.ops⟩], .of_services hservices rfl rfl ?_ ?_⟩
    · rw [hpace]
      rfl
    · rw [hpace]
      rfl
  | aside h => exact ⟨[], .of_elapses h.elapses⟩

/-- **What a history reports, and counts.** -/
theorem History.reports {e last : Emulator} {deeds : List Deed} (h : History e deeds last) :
    ∃ reports, e.Reports deeds reports last := by
  refine h.related (R := fun e deeds last => ∃ reports, e.Reports deeds reports last)
    (fun e => ⟨[], .of_elapses (.refl e)⟩) ?_ Performs.reports
  rintro e deeds middle more last ⟨reports, hfirst⟩ ⟨others, hrest⟩
  exact ⟨_, hfirst.trans hrest⟩

/-! ## What a deed has counted -/

/-- A slice has made its steps one after the other, from the machine before it to the one after it,
whose timers have ticked besides. -/
def Deed.IsTraced : Deed → Prop
  | .slice before ops after => ∃ k ticks,
    (Deed.slice before ops after).steps = (List.range k).map before.machine.stepped ∧
      after.machine = { before.machine.stepped k with
        timers := (before.machine.stepped k).timers.ticks ticks }
  | _ => True

/-- **A slice returns how many of the steps it has made ran an instruction.** -/
theorem Performs.ops_eq {e next : Emulator} {deeds : List Deed} (h : Performs e deeds next) :
    ∀ deed ∈ deeds, deed.IsTraced ∧ deed.ops = deed.steps.countP Machine.runsNext := by
  cases h with
  | @slice _ seconds done hrun =>
    obtain ⟨time, stepsDue, ticksDue, rfl, hops⟩ := exists_advanced_of_run_advanceBy hrun
    let made := e.machine.trail (stepsDue - e.pace.stepsDone).toNat
    have hsteps : (Deed.slice e done.1 (e.advanced time stepsDue ticksDue)).steps = made := by
      rw [Deed.steps, stepsDone_advanced]
    obtain ⟨hmachine, hcount⟩ := e.machine.burst_eq_of_trail (stepsDue - e.pace.stepsDone).toNat
    refine List.forall_mem_singleton.2
      ⟨⟨made.length, (ticksDue - e.pace.ticksDone).toNat, ?_, ?_⟩, ?_⟩
    · rw [hsteps]
      exact Machine.trail_eq_map_stepped ..
    · rw [machine_advanced, hmachine]
    · rw [hsteps, Deed.ops, hops, hcount]
  | buzzer | refresh | report => exact List.forall_mem_singleton.2 ⟨trivial, rfl⟩
  | fails | aside => exact List.forall_mem_nil _

theorem History.ops_eq {e last : Emulator} {deeds : List Deed} (h : History e deeds last) :
    ∀ deed ∈ deeds, deed.IsTraced ∧ deed.ops = deed.steps.countP Machine.runsNext := by
  induction h with
  | nil => exact List.forall_mem_nil _
  | snoc _ hlast ih => exact List.forall_mem_append.2 ⟨ih, hlast.ops_eq⟩

theorem History.sum_ops {e last : Emulator} {deeds : List Deed} (h : History e deeds last) :
    (deeds.map Deed.ops).sum = (deeds.flatMap Deed.steps).countP Machine.runsNext := by
  rw [List.countP_flatMap, List.map_congr_left fun deed hdeed => (h.ops_eq deed hdeed).2]
  rfl

/-! ## The whole -/

/-- **Every frame and every instruction is reported once, or still counted.**

Over every history of slices of time, frames and reports, in any order, from a pace at its start, the
titles tell reports and nothing else.  The instructions in these reports and those counted since are
as many as the slices returned, which is how many of the steps they have made ran an instruction; a
step spent waiting for a key is none of them.  The frames in the reports and those counted since are
as many as were shown.  What a run leaves behind is what such a history leaves, whatever ends it. -/
theorem counts_conserved {e : Emulator} {speed : Option Quantity}
    (hstart : Pace.start speed = .ok e.pace) :
    (∀ deeds last, History e deeds last → ∃ reports : List Figures,
      last.host.titles = e.host.titles ++ reports.map Figures.title ∧
      (∀ others : List Figures,
        last.host.titles = e.host.titles ++ others.map Figures.title → others = reports) ∧
      (reports.map Figures.ops).sum + last.pace.ops = (deeds.map Deed.ops).sum ∧
      (deeds.map Deed.ops).sum = (deeds.flatMap Deed.steps).countP Machine.runsNext ∧
      (∀ deed ∈ deeds, deed.IsTraced) ∧
      (∀ m ∈ deeds.flatMap Deed.steps, m.wait.active = true → m.step.machine.wait.active = true →
        m.runsNext = false) ∧
      (reports.map Figures.frames).sum + last.pace.frames = deeds.countP Deed.isRefresh ∧
      last.host.framesShown = e.host.framesShown + deeds.countP Deed.isRefresh) ∧
    ∃ deeds, History e deeds (left (run.run e)) := by
  obtain ⟨-, hframes, hops⟩ := Pace.counts_of_start hstart
  refine ⟨fun deeds last h => ?_, exists_history_run e⟩
  obtain ⟨reports, hreports⟩ := h.reports
  refine ⟨reports, hreports.titles_eq, fun others hothers => ?_, ?_, h.sum_ops,
    fun deed hdeed => (h.ops_eq deed hdeed).1, fun m _ => Machine.runsNext_of_waiting, ?_,
    hreports.shown_eq⟩
  · have hsame := List.append_cancel_left (hothers.symm.trans hreports.titles_eq)
    exact (List.map_inj_right fun _ _ heq => Figures.title_injective heq).1 hsame
  · rw [hreports.ops_eq, hops, Nat.zero_add]
  · rw [hreports.frames_eq, hframes, Nat.zero_add]

/-- An emulator whose program waits for a key at once. -/
def waiting : Emulator := bare #[0xF0, 0x0A] 700

/-- In its slice two steps are made, the second of them during the wait.  The report between two
frames tells one frame and one instruction, and one frame is still counted. -/
theorem counts_conserved_waiting :
    ∃ deeds last, Pace.start (some (.whole 700)) = .ok waiting.pace ∧ History waiting deeds last ∧
      (deeds.flatMap Deed.steps).length = 2 ∧ deeds.countP Deed.isRefresh = 2 ∧
      last.host.titles = ["CHIP-8 VM - 1 FPS, 1 OPS"] ∧ last.pace.frames = 1 ∧
      last.pace.ops = 0 := by
  have hpace : Pace.start (some (.whole 700)) = .ok waiting.pace := rfl
  -- the counts follow from the title alone
  have hcounts {deeds : List Deed} {last : Emulator} (h : History waiting deeds last)
      (hrefresh : deeds.countP Deed.isRefresh = 2)
      (hran : (deeds.flatMap Deed.steps).countP Machine.runsNext = 1)
      (htitles : last.host.titles = ["CHIP-8 VM - 1 FPS, 1 OPS"]) :
      last.pace.frames = 1 ∧ last.pace.ops = 0 := by
    obtain ⟨reports, -, hreports, hops, hsteps, -, -, hframes, -⟩ :=
      (counts_conserved hpace).1 deeds last h
    obtain rfl := hreports [⟨1, 1⟩] htitles
    rw [hsteps, hran] at hops
    rw [hrefresh] at hframes
    exact ⟨Nat.add_left_cancel hframes, Nat.add_left_cancel hops⟩
  have hdue : waiting.Owes 0.02 14 1 := ⟨by rfl, by rfl⟩
  have hslice : (advanceBy (.real 0.02)).run waiting = _ :=
    run_advanceBy_of_owes rfl hdue (by decide +kernel)
  let sliced := waiting.advanced 0.02 14 1
  have hshown (e : Emulator) : refreshDisplay.run e = .ok () (left (refreshDisplay.run e)) := rfl
  have htold (e : Emulator) :
      reportPerformance.run e = .ok () (left (reportPerformance.run e)) := rfl
  have hhistory := (((History.nil.snoc (.slice hslice)).snoc (.refresh (hshown sliced))).snoc
    (.report (htold _))).snoc (.refresh (hshown _))
  have hsteps (ops : Nat) :
      [Deed.slice waiting ops sliced, .refresh, .report, .refresh].flatMap Deed.steps =
        waiting.machine.trail 14 := by
    simp [Deed.steps, sliced, waiting, bare]
  have hran : (waiting.machine.trail 14).length = 2 ∧
      (waiting.machine.trail 14).countP Machine.runsNext = 1 := by decide +kernel
  have htitles : (left (refreshDisplay.run (left (reportPerformance.run
      (left (refreshDisplay.run sliced)))))).host.titles = ["CHIP-8 VM - 1 FPS, 1 OPS"] := by
    decide +kernel
  refine ⟨_, _, hpace, hhistory, ?_, rfl, htitles, ?_⟩
  · exact (congrArg List.length (hsteps _)).trans hran.1
  · exact hcounts hhistory rfl ((congrArg _ (hsteps _)).trans hran.2) htitles

end Emulator

end ChipEight
