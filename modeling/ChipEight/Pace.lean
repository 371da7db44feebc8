import ChipEight.Quantity

/-!
# Pace — how much is due

The machine owes instructions and timer ticks for the time that has elapsed since the start.  The
count that is due is worked out from the whole elapsed time, never by adding up slices, so rounding
does not build up.  A pace keeps the elapsed time and how much of each has been dealt with.

* `truncate` — the whole part of a double, exactly;
* `due` — how much is due at a rate;
* `Pace.stepsDue`, `Pace.ticksDue` — the two counts.
-/

namespace ChipEight

/-- The magnitude of a finite double's whole part, from its exponent and fraction fields. -/
def wholeMagnitude (exponent fraction : Nat) : Nat :=
  if exponent = 0 then 0
  else if 1075 ≤ exponent then (0x10000000000000 + fraction) <<< (exponent - 1075)
  else (0x10000000000000 + fraction) >>> (1075 - exponent)

/-- The whole part of a double; infinities and what is not a number have none. -/
def truncate (x : Float) : Except Failure Int :=
  let bits := x.toBits.toNat
  let exponent := bits / 0x10000000000000 % 2048
  let fraction := bits % 0x10000000000000
  if exponent = 2047 then
    if fraction = 0 then .error .timeInfinite else .error .timeNotANumber
  else if bits < 0x8000000000000000 then .ok (wholeMagnitude exponent fraction)
  else .ok (-(wholeMagnitude exponent fraction : Int))

/-- What is added before the whole part is taken, so that a time that lands on a boundary up to
rounding counts as having reached it. -/
def boundaryMargin : Float := 1e-9

/-- How much is due after some time at a rate per second. -/
def due (elapsed rate : Float) : Except Failure Int :=
  truncate (elapsed * rate + boundaryMargin)

/-- The timers tick sixty times a second. -/
def tickRate : Float := 60.0

/-- The instructions per second unless another speed is asked for. -/
def defaultClockSpeed : Quantity := .whole 400

/-- The elapsed time, and how much of what it owes has been dealt with. -/
structure Pace where
  /-- Instructions per second. -/
  speed : Quantity
  /-- Seconds since the start. -/
  elapsed : Float
  stepsDone : Int
  ticksDone : Int
  /-- Whether the sound system was last told to sound. -/
  buzzer : Bool
  /-- Frames shown since the last report. -/
  frames : Nat
  /-- Instructions run since the last report. -/
  ops : Nat

namespace Pace

/-- A pace at the start; there is none without a positive speed. -/
def start (speed : Option Quantity) : Except Failure Pace :=
  let speed := speed.getD defaultClockSpeed
  if speed.isNotPositive then .error .clockSpeed
  else .ok ⟨speed, 0.0, 0, 0, false, 0, 0⟩

/-- A pace some seconds later. -/
def wait (p : Pace) (seconds : Float) : Pace :=
  { p with elapsed := p.elapsed + seconds }

/-- The number of instructions due since the start. -/
def stepsDue (p : Pace) : Except Failure Int := do
  due p.elapsed (← p.speed.toFloat)

/-- The number of timer ticks due since the start. -/
def ticksDue (p : Pace) : Except Failure Int :=
  due p.elapsed tickRate

@[simp] theorem stepsDone_wait (p : Pace) (seconds : Float) :
    (p.wait seconds).stepsDone = p.stepsDone := rfl

@[simp] theorem ticksDone_wait (p : Pace) (seconds : Float) :
    (p.wait seconds).ticksDone = p.ticksDone := rfl

/-- The title that reports the frames and instructions since the last report. -/
def report (p : Pace) : String :=
  s!"CHIP-8 VM - {p.frames} FPS, {p.ops} OPS"

end Pace

end ChipEight
