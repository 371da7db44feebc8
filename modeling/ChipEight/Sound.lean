
/-!
# Sound — the buzzer

The buzzer is on or off.  A silent system only remembers which; a mixer plays a looped square wave
while it is on; a bell rings once when it is switched on.

* `Sound.enable` — the calls for switching the buzzer on or off;
* `Sound.enable_on` — a sound system remembers what it was told last.
-/

namespace ChipEight

/-- A call to the mixer. -/
inductive MixerCall where
  /-- The format of the samples, before the mixer starts: one channel of bytes at a rate. -/
  | setup (rate : Nat)
  | init
  | makeSound (samples : List UInt8)
  | setVolume (volume : Float)
  /-- The sound played over and over. -/
  | play
  | stop
  | close
deriving DecidableEq, Repr

/-- A call of a sound system: to the mixer, or to the terminal for its bell. -/
inductive SoundCall where
  | mixer (call : MixerCall)
  | bell
deriving DecidableEq, Repr

/-- The kinds of sound system. -/
inductive SoundKind where
  | silent
  | mixer
  | bell
deriving DecidableEq, Repr

/-- A sound system, and whether the buzzer is on. -/
structure Sound where
  kind : SoundKind
  on : Bool
deriving DecidableEq, Repr

namespace Sound

/-- Samples per second. -/
def sampleRate : Nat := 44100

/-- Periods of the buzzer per second. -/
def buzzerRate : Nat := 440

/-- The volume of the buzzer. -/
def volume : Float := 0.1

/-- One period of a square wave: high for the first half, low for the rest. -/
def squareWave : List UInt8 :=
  let period := sampleRate / buzzerRate
  List.replicate (period / 2) 0xFF ++ List.replicate (period - period / 2) 0x00

/-- The calls up to the one by which the mixer starts. -/
def mixerStart : List SoundCall := [.mixer (.setup sampleRate), .mixer .init]

/-- A sound system with the buzzer off. -/
def start (kind : SoundKind) : Sound × List SoundCall :=
  (⟨kind, false⟩,
    match kind with
    | .mixer => mixerStart ++ [.mixer (.makeSound squareWave), .mixer (.setVolume volume)]
    | .silent | .bell => [])

/-- The calls for a change of the buzzer. -/
def changeCalls (kind : SoundKind) (was on : Bool) : List SoundCall :=
  match kind, was, on with
  | .mixer, false, true => [.mixer .play]
  | .mixer, true, false => [.mixer .stop]
  | .bell, false, true => [.bell]
  | _, _, _ => []

/-- The buzzer switched on or off. -/
def enable (s : Sound) (on : Bool) : Sound × List SoundCall :=
  ({ s with on }, changeCalls s.kind s.on on)

/-- The calls that give a sound system back. -/
def close (s : Sound) : List SoundCall :=
  match s.kind with
  | .mixer => [.mixer .stop, .mixer .close]
  | .silent | .bell => []

/-- A sound system remembers what it was told last. -/
@[simp] theorem enable_on (s : Sound) (on : Bool) : (s.enable on).1.on = on := rfl

/-- Nothing is called where nothing changes. -/
theorem changeCalls_same (kind : SoundKind) (on : Bool) : changeCalls kind on on = [] := by
  cases kind <;> cases on <;> rfl

end Sound

end ChipEight
