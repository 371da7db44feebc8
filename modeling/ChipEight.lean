import ChipEight.Main
import ChipEight.Display.Pad
import ChipEight.Proofs.Instruction.Table
import ChipEight.Proofs.Machine.Effect
import ChipEight.Proofs.Machine.Step
import ChipEight.Proofs.Machine.Build
import ChipEight.Proofs.Machine.Atomic
import ChipEight.Proofs.Machine.Run
import ChipEight.Proofs.Machine.Bounds
import ChipEight.Proofs.Machine.Calls
import ChipEight.Proofs.Machine.Outcome
import ChipEight.Proofs.Machine.KeyWait
import ChipEight.Proofs.Machine.Dispatch
import ChipEight.Proofs.Machine.Burst
import ChipEight.Proofs.Machine.Untimed
import ChipEight.Proofs.Emulator.Advance
import ChipEight.Proofs.Emulator.Slicing
import ChipEight.Proofs.Input.Keymap
import ChipEight.Proofs.Input.Window
import ChipEight.Proofs.Instruction.Mnemonic
import ChipEight.Proofs.Machine.Footprint
import ChipEight.Proofs.Emulator.Left
import ChipEight.Proofs.Emulator.TimerClock
import ChipEight.Proofs.Display.Redraw
import ChipEight.Proofs.Emulator.Upkeep
import ChipEight.Proofs.Session.Shutdown
import ChipEight.Proofs.Emulator.Failing
import ChipEight.Proofs.Emulator.Budget
import ChipEight.Proofs.Machine.KeyPress
import ChipEight.Proofs.Input.Delivery
import ChipEight.Proofs.Machine.ProgramCounter
import ChipEight.Proofs.Machine.Arithmetic
import ChipEight.Proofs.Framebuffer.Flips
import ChipEight.Proofs.Framebuffer.Hits
import ChipEight.Proofs.Framebuffer.Erase
import ChipEight.Proofs.Memory.Blocks
import ChipEight.Proofs.Machine.SaveRestore
import ChipEight.Proofs.Machine.Draw
import ChipEight.Proofs.Input.Hold
import ChipEight.Proofs.Input.Refusal
import ChipEight.Proofs.Input.Survival
import ChipEight.Proofs.Session.BadKeymap
import ChipEight.Proofs.Emulator.Schedule
import ChipEight.Proofs.Machine.Live
import ChipEight.Proofs.Machine.Loading
import ChipEight.Proofs.Emulator.History
import ChipEight.Proofs.Emulator.Buzzer
import ChipEight.Proofs.Emulator.Counts
