import Mathlib.Data.List.Infix
import ChipEight.Proofs.Machine.Bounds

/-!
# Proofs/Machine/Calls — calls and returns are well bracketed

Only a call and a return touch the stack, and each only its top.  So what a call has put there stays
in place until the stack gets as short as it was before, and the return that makes it so short goes
back behind the call.  What the program writes to memory plays no part.

* `entries_after_cases` — what a move does to the stack;
* `suffix_entries_run` — entries stay in place while the stack is not shorter than they are;
* `Reachable.call_bracketed` — **a call is undone by the return that takes its entry**.
-/

namespace ChipEight.Machine

open Instruction

/-! ## What a move does to the stack -/

@[simp] theorem stack_skipIf (m : Machine) (condition : Bool) :
    (m.skipIf condition).stack = m.stack := by
  rw [skipIf]
  split
  · rfl
  · rfl

@[simp] theorem stack_checkKeys (m : Machine) : m.checkKeys.1.stack = m.stack := by
  rw [checkKeys]
  split
  · rfl
  · rfl

@[simp] theorem stack_afterFailure (m : Machine) (failure : Failure) :
    (m.afterFailure failure).stack = m.stack := by
  rw [afterFailure]
  split
  · rfl
  · rfl

/-- **Only a call and a return touch the stack**: a call puts the program counter on it, a return
takes it from there. -/
theorem entries_execute_cases {m next : Machine} {i : Instruction}
    (hrun : (execute i).run m = .ok () next) :
    next.stack.entries = m.stack.entries ∨
      ((∃ target, i = .call target) ∧ next.stack.entries = m.pc :: m.stack.entries) ∨
      (i = .ret ∧ m.stack.entries = next.pc :: next.stack.entries) := by
  cases i with
  | ret =>
    obtain ⟨pc, rest, hentries, rfl⟩ := run_returnFromCall_eq_ok_iff.1 hrun
    exact .inr (.inr ⟨rfl, hentries⟩)
  | call target =>
    obtain ⟨-, rfl⟩ := run_callTo_eq_ok_iff.1 hrun
    exact .inr (.inl ⟨⟨target, rfl⟩, rfl⟩)
  | skipIfByte | skipUnlessByte | skipIfEqual | skipUnlessEqual | skipIfKey | skipUnlessKey =>
    obtain ⟨⟩ := hrun
    exact .inl (congrArg CallStack.entries (stack_skipIf m _))
  | draw x y rows =>
    obtain ⟨-, -, rfl⟩ := run_drawAt_eq_ok_iff.1 hrun
    exact .inl rfl
  | decimal x =>
    rw [run_decimal, run_store_eq_ok_iff] at hrun
    obtain ⟨-, rfl⟩ := hrun
    exact .inl rfl
  | save x =>
    rw [run_save, run_store_eq_ok_iff] at hrun
    obtain ⟨-, rfl⟩ := hrun
    exact .inl rfl
  | restore x =>
    obtain ⟨-, rfl⟩ := run_restoreFrom_eq_ok_iff.1 hrun
    exact .inl rfl
  | _ =>
    obtain ⟨⟩ := hrun
    exact .inl rfl

/-- **A step leaves the stack alone unless it calls or returns.** -/
theorem entries_step_cases (m : Machine) :
    m.step.machine.stack.entries = m.stack.entries ∨
      ((∃ target, m.Executes (.call target)) ∧
        m.step.machine.stack.entries = m.begun.pc :: m.stack.entries) ∨
      (m.Executes .ret ∧
        m.stack.entries = m.step.machine.pc :: m.step.machine.stack.entries) := by
  rcases m.step_cases with hwait | ⟨hidle, hrange⟩ | ⟨hidle, hrange, hrow⟩ |
    ⟨i, next, hbegins, hrun⟩ | ⟨i, failure, hbegins, hfailure⟩
  · rw [machine_step_of_wait hwait, stack_checkKeys]
    exact .inl rfl
  · rw [step_of_not_inRange hidle hrange]
    exact .inl rfl
  · rw [step_of_no_row hidle hrange hrow]
    exact .inl rfl
  · have hstep := step_of_ok hbegins hrun
    have hexecutes : m.Executes i := ⟨hbegins, by rw [hstep]⟩
    rw [hstep]
    rcases entries_execute_cases hrun with hsame | ⟨⟨target, rfl⟩, hcall⟩ | ⟨rfl, hret⟩
    · exact .inl hsame
    · exact .inr (.inl ⟨⟨target, hexecutes⟩, hcall⟩)
    · exact .inr (.inr ⟨hexecutes, hret⟩)
  · rw [step_of_failure hbegins hfailure, stack_afterFailure]
    exact .inl rfl

/-- Of all moves only a call and a return touch the stack. -/
theorem entries_after_cases (m : Machine) (move : Move) :
    (m.after move).stack.entries = m.stack.entries ∨
      (m.after move).stack.entries = m.begun.pc :: m.stack.entries ∨
      (move = .step ∧ m.Executes .ret ∧
        m.stack.entries = (m.after move).pc :: (m.after move).stack.entries) := by
  cases move with
  | step =>
    rcases m.entries_step_cases with hsame | ⟨-, hcall⟩ | hret
    · exact .inl hsame
    · exact .inr (.inl hcall)
    · exact .inr (.inr ⟨rfl, hret⟩)
  | tick | setKey | releaseAll => exact .inl rfl

/-! ## Entries stay in place

The invariant: the entries in question are the oldest ones on the stack. -/

/-- **A move keeps the oldest entries** if it leaves the stack no shorter than they are. -/
theorem suffix_entries_after {m : Machine} {move : Move} {base : List Int}
    (hbase : base <:+ m.stack.entries) (hdepth : base.length ≤ (m.after move).stack.depth) :
    base <:+ (m.after move).stack.entries := by
  rcases m.entries_after_cases move with hsame | hcall | ⟨-, -, hret⟩
  · rw [hsame]
    exact hbase
  · rw [hcall]
    exact hbase.trans (List.suffix_cons _ _)
  · rw [hret] at hbase
    rcases List.suffix_cons_iff.1 hbase with rfl | hrest
    · have : (m.after move).stack.entries.length = (m.after move).stack.depth := rfl
      rw [List.length_cons] at hdepth
      omega
    · exact hrest

/-- **A run keeps the oldest entries** if it never leaves the stack shorter than they are. -/
theorem suffix_entries_run {m : Machine} {moves : List Move} {base : List Int}
    (hbase : base <:+ m.stack.entries)
    (hdepth : ∀ before, before <+: moves → base.length ≤ (m.run before).stack.depth) :
    base <:+ (m.run moves).stack.entries := by
  induction moves generalizing m with
  | nil => exact hbase
  | cons move moves ih =>
    have hafter : base.length ≤ (m.after move).stack.depth :=
      hdepth [move] (List.prefix_append [move] moves)
    rw [run_cons]
    refine ih (suffix_entries_after hbase hafter) fun before hbefore => ?_
    exact hdepth (move :: before) (List.cons_prefix_cons.2 ⟨rfl, hbefore⟩)

/-- **A move that takes an entry is a return to it.** -/
theorem executes_ret_of_depth {m : Machine} {move : Move} {pc : Int} {rest : List Int}
    (hbase : pc :: rest <:+ m.stack.entries) (hdepth : (m.after move).stack.depth ≤ rest.length) :
    move = .step ∧ m.Executes .ret ∧ (m.after move).stack.entries = rest ∧
      (m.after move).pc = pc := by
  have hlength := hbase.length_le
  have hafter : (m.after move).stack.entries.length ≤ rest.length := hdepth
  rw [List.length_cons] at hlength
  rcases m.entries_after_cases move with hsame | hcall | ⟨hmove, hexecutes, hret⟩
  · rw [hsame] at hafter
    omega
  · rw [hcall, List.length_cons] at hafter
    omega
  · rw [hret] at hbase
    rcases List.suffix_cons_iff.1 hbase with htop | hrest
    · obtain ⟨rfl, rfl⟩ := List.cons.inj htop
      exact ⟨hmove, hexecutes, rfl, rfl⟩
    · have hlong := hrest.length_le
      rw [List.length_cons] at hlong
      omega

/-! ## Calls and returns -/

/-- A call puts the address behind its own on the stack. -/
theorem WellFormed.entries_call {m : Machine} (h : m.WellFormed) {target : Fin 0x1000}
    (hcall : m.Executes (.call target)) :
    m.step.machine.stack.entries = (m.pc + 2) :: m.stack.entries := by
  obtain ⟨-, hmachine⟩ := run_callTo_eq_ok_iff.1 hcall.run
  rw [hmachine, ← h.pc_begun]
  rfl

/-- **Calls and returns are well bracketed.**  After a call, and as long as the stack stays deeper than
it was before the call, the stack goes on from the entries of then and the address behind the call.
The move that ends this is a return: it leaves the entries of then, and goes on behind the call. -/
theorem Reachable.call_bracketed {m : Machine} (h : Reachable m) {target : Fin 0x1000}
    (hcall : m.Executes (.call target)) {moves : List Move}
    (hdepth : ∀ before, before <+: moves →
      m.stack.depth < (m.step.machine.run before).stack.depth) :
    (∀ before, before <+: moves →
      m.stack.toList ++ [m.pc + 2] <+: (m.step.machine.run before).stack.toList) ∧
    ∀ move, ((m.step.machine.run moves).after move).stack.depth ≤ m.stack.depth →
      move = .step ∧ (m.step.machine.run moves).Executes .ret ∧
        ((m.step.machine.run moves).after move).stack.toList = m.stack.toList ∧
        ((m.step.machine.run moves).after move).pc = m.pc + 2 := by
  have hentries := h.wellFormed.entries_call hcall
  have hsuffix (before : List Move) (hbefore : before <+: moves) :
      (m.pc + 2) :: m.stack.entries <:+ (m.step.machine.run before).stack.entries := by
    refine suffix_entries_run ?_ fun earlier hearlier => ?_
    · exact hentries ▸ List.suffix_rfl
    · exact hdepth earlier (hearlier.trans hbefore)
  refine ⟨fun before hbefore => ?_, fun move hmove => ?_⟩
  · rw [CallStack.toList, CallStack.toList, ← List.reverse_cons]
    exact List.reverse_prefix.2 (hsuffix before hbefore)
  · obtain ⟨hstep, hexecutes, hstack, hpc⟩ :=
      executes_ret_of_depth (hsuffix moves (List.prefix_refl moves)) hmove
    exact ⟨hstep, hexecutes, congrArg List.reverse hstack, hpc⟩

/-- A call of a subroutine that calls another one: the second return goes back behind the call. -/
theorem Reachable.call_bracketed_nested :
    let m := booted [0x22, 0x06, 0x12, 0x02, 0x00, 0x00, 0x22, 0x0A, 0x00, 0xEE, 0x00, 0xEE] [] false
    m.Executes (.call 0x206) ∧
      [0x202] <+: (m.step.machine.run [.step]).stack.toList ∧
      (m.step.machine.run [.step, .tick, .step]).Executes .ret ∧
      ((m.step.machine.run [.step, .tick, .step]).after .step).pc = 0x202 := by
  intro m
  have hreachable : Reachable m := .of_booted (by decide) [] false
  have hrun : m.Executes (.call 0x206) ∧
      (∀ before ∈ [Move.step, .tick, .step].inits,
        m.stack.depth < (m.step.machine.run before).stack.depth) ∧
      ((m.step.machine.run [.step, .tick, .step]).after .step).stack.depth ≤ m.stack.depth := by
    decide +kernel
  obtain ⟨hcall, hdepth, hlow⟩ := hrun
  obtain ⟨hbetween, hend⟩ := hreachable.call_bracketed hcall
    fun before hbefore => hdepth before ((List.mem_inits before _).2 hbefore)
  obtain ⟨-, hret, -, hpc⟩ := hend .step hlow
  exact ⟨hcall, hbetween [.step] ⟨[.tick, .step], rfl⟩, hret, hpc⟩

end ChipEight.Machine
