import ChipEight.Proofs.Input.Refusal
import ChipEight.Proofs.Session.Shutdown

/-!
# Proofs/Session/BadKeymap — how a session ends whose keymap is refused

A keymap is read after the display has opened and before anything else does.  A fault of the keymap
halts emulation: it is told to the user, with status 1.  A terminal takes codes in lower case, and an
integer that has none is no fault of the keymap; its failure passes through the command.

* `exists_run_of_refused` — a session whose keymap is refused fails for that reason;
* `bad_keymap_status` — **status 1 for every display**, unless a terminal fails on an integer.
-/

namespace ChipEight.Session

open CommandLine

variable {s : Settings} {p : Prepared} {failure : Failure}

/-- Whether a session takes the codes of its keymap in lower case: they are characters of a terminal. -/
def takesLower (devices : Devices) : Bool :=
  devices.display == .terminal

/-- The input system does not open without a keymap. -/
theorem openInput_of_refused {keymap : Argument String} (hkeymap : s.keymap = some keymap)
    (hrefused : Keymap.parse (keymapText keymap) (takesLower p.devices) = .error failure) (h : Host) :
    openInput s p h = .error failure h := by
  change (openInput s p).run h = _
  unfold takesLower at hrefused
  simp only [openInput, inputOf, EStateM.run_bind, hkeymap, need, run_attempt_ok]
  cases hdisplay : p.devices.display <;> rw [hdisplay] at hrefused
  · have hfalse : Keymap.parse (keymapText keymap) false = .error failure := hrefused
    simp only [EStateM.run_bind, hfalse, run_attempt_error]
  · have hfalse : Keymap.parse (keymapText keymap) false = .error failure := hrefused
    simp only [EStateM.run_bind, hfalse, run_attempt_error]
  · have htrue : Keymap.parse (keymapText keymap) true = .error failure := hrefused
    simp only [EStateM.run_bind, htrue, run_attempt_error]

/-- **A session whose keymap is refused fails for that reason.** -/
theorem exists_run_of_refused {keymap : Argument String} {h : Host} {display : Display}
    {calls : List DisplayCall} (hkeymap : s.keymap = some keymap)
    (hsettle : settle s h = .ok (p, display, calls))
    (hrefused : Keymap.parse (keymapText keymap) (takesLower p.devices) = .error failure) :
    ∃ ended, run s h = .error failure ended := by
  have hopen := openInput_of_refused hkeymap hrefused (displayed h calls)
  obtain ⟨hprepare, hdisplay⟩ := settle_eq_ok_iff.1 hsettle
  rw [run, start_of_settle hprepare hdisplay, openRest, hopen]
  exact ⟨_, rfl⟩

/-- The failure of a text that escapes is not reported. -/
theorem haltsEmulation_of_escapes {text : String} (h : Keymap.Escapes text failure) :
    failure.haltsEmulation = false := by
  obtain ⟨-, _, _, _, _, _, -, -, -, -, huncased⟩ := h
  cases huncased <;> rfl

/-- **How a refused keymap is reported.**  The constructor of an input system fails with a fault of the
keymap, or else the text escapes that where codes are taken in lower case; and every text that escapes
fails so.  In a session that is settled a fault of the keymap is told to the user, with status 1, and
this is so for every display but a terminal; the failure of a text that escapes on a terminal passes
through the command. -/
theorem bad_keymap_status (args : List String) (h : Host) :
    (∀ text lower failure,
      (Keymap.parse text lower = .error failure ∧ ∀ fault, failure ≠ .keymap fault) ↔
        lower = true ∧ Keymap.Escapes text failure) ∧
    ∀ o p display calls failure, parse args = .ok o →
      settle (settingsOf o) h = .ok (p, display, calls) →
      Keymap.parse (keymapText o.keymap) (takesLower p.devices) = .error failure →
      (∃ fault, failure = .keymap fault ∧ ∃ told : Host,
        command args h = .ok 1 (told.note (.complained ("Emulation halted.\n\n" ++ fault.message)))) ∨
      (p.devices.display = .terminal ∧ Keymap.Escapes (keymapText o.keymap) failure ∧
        ∃ ended, command args h = .error failure ended) := by
  refine ⟨fun text lower failure => Keymap.parse_escapes_iff,
    fun o p display calls failure hparse hsettle hrefused => ?_⟩
  obtain ⟨ended, hrun⟩ := exists_run_of_refused rfl hsettle hrefused
  rw [command_of_parse hparse, hrun]
  obtain ⟨fault, rfl⟩ | ⟨hlower, hescapes⟩ := Keymap.parse_eq_error_cases hrefused
  · exact .inl ⟨fault, rfl, ended, rfl⟩
  · have hpasses := haltsEmulation_of_escapes hescapes
    exact .inr ⟨beq_iff_eq.1 hlower, hescapes, ended, if_neg (by rw [hpasses]; exact nofun)⟩

/-- What is settled on a host with a program in every file, for any devices it can choose. -/
theorem prepare_stoppedHost {renderer : Argument String} {mute : Argument Bool} {name : String}
    {devices : Devices} (hclock : s.clockSpeed = some .absent) (hpixel : s.pixelSize = some .absent)
    (hrenderer : s.renderer = some renderer) (hmute : s.mute = some mute)
    (hname : s.filename = some (some name)) (hdebug : s.debug = some false)
    (hdevices : chooseDevices stoppedHost renderer mute = .ok (some devices)) :
    prepare s stoppedHost = .ok ⟨Machine.booted [0x12, 0x00] [] false, devices, none, none⟩ := by
  have hprogram : readProgram stoppedHost (some name) = .ok [0x12, 0x00] := rfl
  have hbuild : Machine.build ([0x12, 0x00].map fun b : UInt8 => (b.toNat : Int)) [] false =
      .ok (Machine.booted [0x12, 0x00] [] false) := Machine.build_bytes (by decide) [] false
  have hrandom : stoppedHost.random = [] := rfl
  simp only [prepare, hclock, hpixel, hrenderer, hmute, hname, hdebug, hdevices, need, positive, bind,
    Except.bind, hprogram, hrandom, hbuild]
  rfl

/-- The options of a session on one of the displays with a keymap. -/
def keymapOptions (renderer keymap : String) : Options where
  filename := "jump.ch8"
  clockSpeed := .absent
  pixelSize := .absent
  renderer := .one renderer
  mute := .absent
  keymap := .one keymap
  debug := false

/-- A keymap with three codes ends a session without display with status 1.  On a terminal the failure
of a keymap that begins with minus one is not told to the user. -/
theorem bad_keymap_status_terminal :
    (∃ told : Host, command ["-r", "null", "-k", "1,2,3", "jump.ch8"] stoppedHost =
      .ok 1 (told.note (.complained ("Emulation halted.\n\n" ++ KeymapFault.fieldCount.message)))) ∧
    ∃ ended, command ["-r", "curses", "-k=-1,2,3,4,5,6,7,8,9,10,11,12,13,14,15,16", "jump.ch8"]
      stoppedHost = .error .noSuchCharacter ended := by
  have hnull : parse ["-r", "null", "-k", "1,2,3", "jump.ch8"] =
      .ok (keymapOptions "null" "1,2,3") := by decide +kernel
  have hterminal : parse ["-r", "curses", "-k=-1,2,3,4,5,6,7,8,9,10,11,12,13,14,15,16", "jump.ch8"] =
      .ok (keymapOptions "curses" "-1,2,3,4,5,6,7,8,9,10,11,12,13,14,15,16") := by decide +kernel
  have hfew : Keymap.parse (keymapText (.one "1,2,3")) (takesLower ⟨.null, .silent⟩) =
      .error (.keymap .fieldCount) := rfl
  have hminus : Keymap.parse
      (keymapText (.one "-1,2,3,4,5,6,7,8,9,10,11,12,13,14,15,16"))
      (takesLower (terminalDevices .absent)) = .error .noSuchCharacter := rfl
  constructor
  · have hsettle := settle_eq_ok_iff.2
      ⟨prepare_stoppedHost (s := settingsOf (keymapOptions "null" "1,2,3"))
        rfl rfl rfl rfl rfl rfl rfl, rfl⟩
    obtain ⟨-, hends⟩ := bad_keymap_status ["-r", "null", "-k", "1,2,3", "jump.ch8"] stoppedHost
    obtain ⟨fault, hfault, hcommand⟩ | ⟨hnot, -⟩ := hends _ _ _ _ _ hnull hsettle hfew
    · obtain rfl := Failure.keymap.inj hfault
      exact hcommand
    · nomatch hnot
  · have hsettle := settle_eq_ok_iff.2
      ⟨prepare_stoppedHost
        (s := settingsOf (keymapOptions "curses" "-1,2,3,4,5,6,7,8,9,10,11,12,13,14,15,16"))
        rfl rfl rfl rfl rfl rfl rfl, rfl⟩
    obtain ⟨-, hends⟩ := bad_keymap_status
      ["-r", "curses", "-k=-1,2,3,4,5,6,7,8,9,10,11,12,13,14,15,16", "jump.ch8"] stoppedHost
    obtain ⟨fault, hfault, -⟩ | ⟨-, -, hcommand⟩ := hends _ _ _ _ _ hterminal hsettle hminus
    · nomatch hfault
    · exact hcommand

/-- **Not every refusal is a fault of a keymap**: one in lower case is refused for its first code, which
is no character. -/
theorem parse_minus_one :
    ∃ failure, Keymap.parse "-1,2,3,4,5,6,7,8,9,10,11,12,13,14,15,16" true = .error failure ∧
      ∀ fault, failure ≠ .keymap fault :=
  ⟨.noSuchCharacter, rfl, nofun⟩

end ChipEight.Session
