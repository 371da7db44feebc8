import ChipEight.Failure

/-!
# Timers — the delay and the sound timer

Each timer is a byte that a tick lowers by one until it is zero.  The buzzer sounds while the sound
timer is not zero.

* `ticks_add` — ticks add up;
* `toNat_ticks_delay`, `toNat_ticks_sound` — `n` ticks lower a timer by `n`, and no further than zero.
-/

namespace ChipEight

/-- The two countdown timers. -/
structure Timers where
  delay : UInt8
  sound : UInt8
deriving DecidableEq, Repr

namespace Timers

/-- Both timers at zero. -/
def zero : Timers := ⟨0, 0⟩

/-- A timer one tick later. -/
def lower (b : UInt8) : UInt8 := if b = 0 then 0 else b - 1

/-- Both timers one tick later. -/
def tick (t : Timers) : Timers := ⟨lower t.delay, lower t.sound⟩

/-- Both timers a number of ticks later. -/
def ticks (t : Timers) : Nat → Timers
  | 0 => t
  | n + 1 => t.tick.ticks n

/-- The delay timer set to the low byte of a number. -/
def setDelay (t : Timers) (value : Int) : Timers := { t with delay := UInt8.ofInt value }

/-- The sound timer set to the low byte of a number. -/
def setSound (t : Timers) (value : Int) : Timers := { t with sound := UInt8.ofInt value }

/-- Whether the buzzer is to sound. -/
def isSounding (t : Timers) : Bool := t.sound != 0

/-- A timer one tick later is one lower, and not below zero. -/
@[simp] theorem toNat_lower (b : UInt8) : (lower b).toNat = b.toNat - 1 := by
  unfold lower
  split
  · next h => subst h; rfl
  · next h =>
    have hb : 1 ≤ b.toNat := Nat.pos_of_ne_zero fun h0 => h (UInt8.toNat_inj.1 h0)
    exact UInt8.toNat_sub_of_le b 1 hb

/-- Ticks add up. -/
theorem ticks_add (t : Timers) (n k : Nat) : t.ticks (n + k) = (t.ticks n).ticks k := by
  induction n generalizing t with
  | zero => rw [Nat.zero_add, ticks]
  | succ n ih => rw [Nat.succ_add, ticks, ticks, ih]

/-- **`n` ticks lower the delay timer by `n`, and no further than zero.** -/
theorem toNat_ticks_delay (t : Timers) (n : Nat) : (t.ticks n).delay.toNat = t.delay.toNat - n := by
  induction n generalizing t with
  | zero => rfl
  | succ n ih =>
    simp only [ticks, ih, tick, toNat_lower]
    omega

/-- **`n` ticks lower the sound timer by `n`, and no further than zero.** -/
theorem toNat_ticks_sound (t : Timers) (n : Nat) : (t.ticks n).sound.toNat = t.sound.toNat - n := by
  induction n generalizing t with
  | zero => rfl
  | succ n ih =>
    simp only [ticks, ih, tick, toNat_lower]
    omega

end Timers

end ChipEight
